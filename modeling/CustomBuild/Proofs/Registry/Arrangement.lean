import CustomBuild.Proofs.Registry.Joining

/-!
# The arrangement of a directory

A manifest lists fragment files in some order, and each of them has sections in some order.  Neither
order decides whether there is a registry, nor what is in it, apart from the order of variants in
their tables (`load_rearranged`).

Loading reads the listed files one after the other.  What each of them adds is a list of rows
(`fileRows?`).  Reading all of them works exactly if each has such rows and no key comes twice in
all of the rows (`exists_readSections_iff`), and then the rows are what is found
(`get?_readSections`).  Neither says anything about the order of the rows, so the tables of sections
are alike if the files or their sections are moved around (`readSections_alike`).

A manifest may list itself.  Moving files around changes its text, but no manifest is a fragment
file, because it begins with a brace (`fileRows?_of_manifest`).
-/

namespace CustomBuild

open Fragment (Sections)

namespace Registry

/-! ### Reading files -/

variable {s u : Sections} {t t' : FileTree} {workingDirectory : Location} {directory : Path}
  {file : Json} {files moved : List Json} {key : Fragment.Key} {source : String}

/-- The text of a listed file. -/
def fileText (t : FileTree) (workingDirectory : Location) (directory : Path) (file : Json) :
    Except LoadError String :=
  let p := directory.join (Path.ofText file.display)
  readText t workingDirectory p (.fragmentMissing p.text)

/-- The text of the manifest. -/
def manifestText (t : FileTree) (workingDirectory : Location) (directory : Path) :
    Except LoadError String :=
  let p := directory.join (Path.ofText manifestName)
  readText t workingDirectory p (.manifestMissing p.text)

/-- The manifest of a directory. -/
def readManifest (t : FileTree) (workingDirectory : Location) (directory : Path) :
    Except LoadError Json := do
  let text ← manifestText t workingDirectory directory
  (Json.read text).mapError .notJson

/-- The files that a manifest lists. -/
def listedFiles (manifest : Json) : Except Misuse (List Json) := do
  let field ← manifest.required "fragment_files"
  field.listed

/-- What a listed file adds to the sections, if it is a fragment file that can be read. -/
def fileRows? (t : FileTree) (workingDirectory : Location) (directory : Path) (file : Json) :
    Option (List (Fragment.Key × String)) :=
  match fileText t workingDirectory directory file with
  | .ok text =>
    if file.isText ∧ Fragment.BeginsBlank text then some (Fragment.storedRows text) else none
  | .error _ => none

/-- What listed files add to the sections. -/
def filesRows (t : FileTree) (workingDirectory : Location) (directory : Path)
    (files : List Json) : List (Fragment.Key × String) :=
  files.flatMap fun file => (fileRows? t workingDirectory directory file).getD []

/-- **Loading** goes through the manifest, the listed files and the declarations. -/
theorem loadRecord_eq (t : FileTree) (workingDirectory : Location) (directory : Path) :
    loadRecord t workingDirectory directory =
      readManifest t workingDirectory directory >>= fun manifest =>
        (listedFiles manifest).mapError .misuse >>= fun files =>
          readSections t workingDirectory directory files {} >>= fun sections =>
            joined sections manifest := by
  have hmanifest : ∀ manifest, ofManifest t workingDirectory directory manifest =
      (listedFiles manifest).mapError .misuse >>= fun files =>
        readSections t workingDirectory directory files {} >>= fun sections =>
          joined sections manifest := by
    intro manifest
    unfold ofManifest listedFiles
    cases manifest.required "fragment_files" <;> rfl
  unfold loadRecord readManifest manifestText
  dsimp only
  cases readText t workingDirectory (directory.join (Path.ofText manifestName))
      (.manifestMissing (directory.join (Path.ofText manifestName)).text) with
  | error error => rfl
  | ok text =>
    simp only [← hmanifest, ok_bind]
    cases Json.read text <;> rfl

theorem fileRows?_eq_some_iff {rows : List (Fragment.Key × String)} :
    fileRows? t workingDirectory directory file = some rows ↔
      ∃ text, fileText t workingDirectory directory file = .ok text ∧ file.isText = true ∧
        Fragment.BeginsBlank text ∧ Fragment.storedRows text = rows := by
  unfold fileRows?
  cases fileText t workingDirectory directory file with
  | error error => simp
  | ok text => simp [and_assoc]

/-- Reading the sections of one file more. -/
theorem readSections_cons_eq_ok_iff :
    readSections t workingDirectory directory (file :: files) s = .ok u ↔
      ∃ text, file.isText = true ∧ fileText t workingDirectory directory file = .ok text ∧
        (s.addFile (directory.join (Path.ofText file.display)).name text).2 = none ∧
        readSections t workingDirectory directory files
          (s.addFile (directory.join (Path.ofText file.display)).name text).1 = .ok u := by
  rw [readSections]
  unfold fileText
  dsimp only
  by_cases hfile : file.isText = true
  · rw [hfile, Bool.not_true, if_neg Bool.false_ne_true]
    cases readText t workingDirectory (directory.join (Path.ofText file.display))
        (.fragmentMissing (directory.join (Path.ofText file.display)).text) with
    | error error => exact iff_of_false nofun (by simp)
    | ok text =>
      rw [ok_bind]
      cases hadd : s.addFile (directory.join (Path.ofText file.display)).name text with
      | mk extended error? =>
        cases error? with
        | none => simp [hadd]
        | some error => simp [hadd]
  · rw [Bool.eq_false_iff.2 hfile]
    exact iff_of_false nofun (by simp)

/-- A file whose sections can be stored has rows. -/
theorem fileRows?_of_addFile {text name : String} (hfile : file.isText = true)
    (htext : fileText t workingDirectory directory file = .ok text)
    (hadd : (s.addFile name text).2 = none) :
    fileRows? t workingDirectory directory file = some (Fragment.storedRows text) := by
  obtain ⟨hblank, -⟩ := Sections.addFile_eq_none_iff_rows.1 hadd
  exact fileRows?_eq_some_iff.2 ⟨text, htext, hfile, hblank, rfl⟩

theorem filesRows_cons {rows : List (Fragment.Key × String)}
    (h : fileRows? t workingDirectory directory file = some rows) (rest : List Json) :
    filesRows t workingDirectory directory (file :: rest) =
      rows ++ filesRows t workingDirectory directory rest := by
  unfold filesRows
  rw [List.flatMap_cons, h, Option.getD_some]

/-- **Reading sections** works exactly if every file can be read and what they add has distinct keys
that are new. -/
theorem exists_readSections_iff :
    (∃ u, readSections t workingDirectory directory files s = .ok u) ↔
      (∀ file ∈ files, fileRows? t workingDirectory directory file ≠ none) ∧
        ((filesRows t workingDirectory directory files).map Prod.fst).Nodup ∧
        ∀ key ∈ (filesRows t workingDirectory directory files).map Prod.fst,
          s.get? key = none := by
  induction files generalizing s with
  | nil =>
    refine iff_of_true ⟨s, rfl⟩ ⟨List.forall_mem_nil _, List.nodup_nil, ?_⟩
    exact List.forall_mem_nil _
  | cons file rest ih =>
    simp only [readSections_cons_eq_ok_iff]
    rw [List.forall_mem_cons]
    cases hrows : fileRows? t workingDirectory directory file with
    | none =>
      refine iff_of_false ?_ fun h => h.1.1 rfl
      rintro ⟨u, text, hfile, htext, hadd, -⟩
      rw [fileRows?_of_addFile hfile htext hadd] at hrows
      cases hrows
    | some rows =>
      obtain ⟨text, htext, hfile, hblank, rfl⟩ := fileRows?_eq_some_iff.1 hrows
      rw [filesRows_cons hrows, List.map_append, List.nodup_append, List.forall_mem_append]
      -- a key of a later file is new to the extended table if it is new and no key of this file
      constructor
      · rintro ⟨u, _, -, htext', hadd, hread⟩
        obtain rfl := Except.ok.inj (htext.symm.trans htext')
        obtain ⟨-, hnodup, hnew⟩ := Sections.addFile_eq_none_iff_rows.1 hadd
        obtain ⟨hrest, hnodupRest, hnewRest⟩ := ih.1 ⟨u, hread⟩
        simp only [Sections.get?_addFile_eq_none_iff_rows hadd] at hnewRest
        have hdisjoint : ∀ key ∈ (Fragment.storedRows text).map Prod.fst,
            ∀ other ∈ (filesRows t workingDirectory directory rest).map Prod.fst,
              key ≠ other := by
          rintro key hkey _ hother rfl
          exact (hnewRest key hother).2 hkey
        exact ⟨⟨nofun, hrest⟩, ⟨hnodup, hnodupRest, hdisjoint⟩, hnew,
          fun key hkey => (hnewRest key hkey).1⟩
      · rintro ⟨⟨-, hrest⟩, ⟨hnodup, hnodupRest, hdisjoint⟩, hnew, hnewRest⟩
        have hadd : (s.addFile (directory.join (Path.ofText file.display)).name text).2 = none :=
          Sections.addFile_eq_none_iff_rows.2 ⟨hblank, hnodup, hnew⟩
        obtain ⟨u, hread⟩ := ih.2 ⟨hrest, hnodupRest, fun key hkey =>
          (Sections.get?_addFile_eq_none_iff_rows hadd).2
            ⟨hnewRest key hkey, fun hmem => hdisjoint key hmem key hkey rfl⟩⟩
        exact ⟨u, text, hfile, htext, hadd, hread⟩

/-- **The sections that are read** are those that were there and what the files add. -/
theorem get?_readSections (h : readSections t workingDirectory directory files s = .ok u) :
    u.get? key = some source ↔ s.get? key = some source ∨
      (key, source) ∈ filesRows t workingDirectory directory files := by
  induction files generalizing s with
  | nil =>
    obtain rfl := Except.ok.inj h
    exact (or_iff_left List.not_mem_nil).symm
  | cons file rest ih =>
    obtain ⟨text, hfile, htext, hadd, hread⟩ := readSections_cons_eq_ok_iff.1 h
    rw [ih hread, Sections.get?_addFile_rows hadd, or_assoc,
      filesRows_cons (fileRows?_of_addFile hfile htext hadd), List.mem_append]

theorem filled_readSections (hs : s.Filled)
    (h : readSections t workingDirectory directory files s = .ok u) : u.Filled := by
  induction files generalizing s with
  | nil =>
    obtain rfl := Except.ok.inj h
    exact hs
  | cons file rest ih =>
    obtain ⟨text, -, -, -, hread⟩ := readSections_cons_eq_ok_iff.1 h
    exact ih hs.addFile hread

/-! ### Files with the same sections -/

theorem perm_getD_of_rel {α : Type} {rows others : Option (List α)}
    (h : Option.Rel List.Perm rows others) : (rows.getD []).Perm (others.getD []) := by
  cases h with
  | none => exact .nil
  | some h => exact h

theorem ne_none_iff_of_rel {α : Type} {rows others : Option (List α)}
    (h : Option.Rel List.Perm rows others) : rows ≠ none ↔ others ≠ none := by
  cases h with
  | none => exact Iff.rfl
  | some h => exact iff_of_true nofun nofun

/-- **The order of the files** does not matter, nor does that of the sections of each. -/
theorem readSections_alike (hperm : files.Perm moved)
    (hfiles : ∀ file ∈ files, Option.Rel List.Perm (fileRows? t workingDirectory directory file)
      (fileRows? t' workingDirectory directory file)) :
    BothOrNeither Sections.Alike (readSections t workingDirectory directory files {})
      (readSections t' workingDirectory directory moved {}) := by
  have hrows : (filesRows t workingDirectory directory files).Perm
      (filesRows t' workingDirectory directory moved) :=
    (List.Perm.flatMap_left _ fun file hfile => perm_getD_of_rel (hfiles file hfile)).trans
      (hperm.flatMap_right _)
  have hread : (∀ file ∈ files, fileRows? t workingDirectory directory file ≠ none) ↔
      ∀ file ∈ moved, fileRows? t' workingDirectory directory file ≠ none := by
    simp only [← hperm.mem_iff]
    exact forall₂_congr fun file hfile => ne_none_iff_of_rel (hfiles file hfile)
  -- both conditions and all look-ups are about the rows as a whole
  have hkeys := hrows.map Prod.fst
  refine .of_succeeds_iff ?_ fun s u hs hu => ?_
  · rw [exists_readSections_iff, exists_readSections_iff, hread, hkeys.nodup_iff]
    simp only [hkeys.mem_iff]
  · have hempty := Sections.filled_empty
    refine (filled_readSections hempty hs).alike (filled_readSections hempty hu) fun key => ?_
    refine Option.ext fun source => ?_
    rw [get?_readSections hs, get?_readSections hu, hrows.mem_iff]

end Registry

/-! ### Objects in JSON -/

namespace Json

variable {cs rest : List Char} {fields : List (String × Json)} {text : String}

theorem readUnsigned_ne_object {negative : Bool} :
    readUnsigned negative cs ≠ .ok (.object fields, rest) := by
  intro h
  unfold readUnsigned at h
  dsimp only at h
  split_ifs at h <;> cases h

/-- No word is an object. -/
theorem readWord_ne_object : readWord cs ≠ .ok (.object fields, rest) := by
  intro h
  unfold readWord at h
  dsimp only at h
  split at h
  · next word value hfind =>
    have hvalue : value = .object fields := (Prod.mk.inj (Except.ok.inj h)).1
    have hmem := List.mem_of_find?_eq_some hfind
    rw [hvalue] at hmem
    simp at hmem
  · split at h <;> exact readUnsigned_ne_object h

/-- **An object** begins with a brace. -/
theorem exists_of_readValue {depth fuel : ℕ}
    (h : readValue depth fuel cs = .ok (.object fields, rest)) : ∃ more, cs = '{' :: more := by
  cases fuel with
  | zero => cases h
  | succ fuel =>
    unfold readValue at h
    split at h
    · split at h
      · next written _ _ =>
        obtain ⟨hvalue, -⟩ := Prod.mk.inj (Except.ok.inj h)
        unfold Written.value at hvalue
        split_ifs at hvalue
      · cases h
    · split_ifs at h
      split at h
      · cases h
      · cases hitems : readItems (depth + 1) fuel (skipSpace _) with
        | error error =>
          rw [hitems] at h
          cases h
        | ok read =>
          rw [hitems] at h
          cases h
    · exact ⟨_, rfl⟩
    · exact absurd h readWord_ne_object

/-- A text that writes an object begins with a brace, except for blanks. -/
theorem exists_of_read (h : read text = .ok (.object fields)) :
    ∃ blanks more, text.toList = blanks ++ '{' :: more ∧ ∀ c ∈ blanks, isSpace c = true := by
  unfold read at h
  dsimp only at h
  split at h
  · next value rest hvalue =>
    split_ifs at h
    rw [Except.ok.inj h] at hvalue
    obtain ⟨more, hmore⟩ := exists_of_readValue hvalue
    refine ⟨text.toList.takeWhile isSpace, more, ?_, fun c hc => List.mem_takeWhile_imp hc⟩
    have hskip : text.toList.dropWhile isSpace = '{' :: more := hmore
    rw [← hskip, List.takeWhile_append_dropWhile]
  · cases h

theorem isBlank_of_isSpace {c : Char} (h : isSpace c = true) : Text.isBlank c = true := by
  simp only [isSpace, Bool.or_eq_true, beq_iff_eq] at h
  rcases h with ((rfl | rfl) | rfl) | rfl <;> decide

end Json

/-! ### Loading -/

namespace Registry

variable {t t' : FileTree} {workingDirectory : Location} {directory : Path} {file : Json}
  {manifest : Json} {text : String}

/-- A text that is read has uniform newlines. -/
theorem not_mem_of_readText {p : Path} {missing : LoadError}
    (h : readText t workingDirectory p missing = .ok text) : '\r' ∉ text.toList := by
  unfold readText at h
  split at h
  · rw [← Except.ok.inj h, String.toList_ofList]
    exact Text.not_mem_uniformNewlines _
  all_goals cases h

theorem readManifest_eq_ok (h : readManifest t workingDirectory directory = .ok manifest) :
    ∃ text, manifestText t workingDirectory directory = .ok text ∧
      Json.read text = .ok manifest := by
  obtain ⟨text, htext, h⟩ := exists_of_bind_eq_ok h
  exact ⟨text, htext, eq_ok_of_mapError_eq_ok h⟩

/-- **The manifest is no fragment file**: it begins with a brace. -/
theorem fileRows?_of_manifest {files : List Json}
    (hmanifest : readManifest t workingDirectory directory = .ok manifest)
    (hlisted : listedFiles manifest = .ok files)
    (hfile : fileText t workingDirectory directory file =
      manifestText t workingDirectory directory) :
    fileRows? t workingDirectory directory file = none := by
  obtain ⟨text, htext, hread⟩ := readManifest_eq_ok hmanifest
  obtain ⟨fields, rfl⟩ : ∃ fields, manifest = .object fields := by
    obtain ⟨field, hfield, -⟩ := exists_of_bind_eq_ok hlisted
    cases manifest with
    | object fields => exact ⟨fields, rfl⟩
    | _ => cases hfield
  obtain ⟨blanks, more, hbrace, hblanks⟩ := Json.exists_of_read hread
  have hnot : ¬ Fragment.BeginsBlank text :=
    Fragment.not_beginsBlank (not_mem_of_readText htext) hbrace
      (fun c hc => Json.isBlank_of_isSpace (hblanks c hc)) (by decide) (by decide)
  by_contra hrows
  obtain ⟨rows, hrows⟩ := Option.ne_none_iff_exists'.1 hrows
  obtain ⟨other, hother, -, hblank, -⟩ := fileRows?_eq_some_iff.1 hrows
  rw [hfile, htext] at hother
  rw [← Except.ok.inj hother] at hblank
  exact hnot hblank

/-- Manifests that say the same, but for the order in which they list the files. -/
structure Relisted (manifest other : Json) : Prop where
  /-- all other fields are the same -/
  fields : ∀ name, name ≠ "fragment_files" → manifest.field? name = other.field? name
  /-- the same files are listed, if any -/
  files : BothOrNeither List.Perm (listedFiles manifest) (listedFiles other)

/-- **A directory in another arrangement**: the manifest lists the files in another order, and a
file has its sections in another order.  A file that cannot be read in one tree cannot be read in
the other.  If the manifest lists itself, it is the manifest of either tree. -/
structure Rearranged (t t' : FileTree) (workingDirectory : Location) (directory : Path) : Prop where
  /-- the manifests say the same -/
  manifests : BothOrNeither Relisted (readManifest t workingDirectory directory)
    (readManifest t' workingDirectory directory)
  /-- the listed files have the same sections -/
  files : ∀ manifest files, readManifest t workingDirectory directory = .ok manifest →
    listedFiles manifest = .ok files → ∀ file ∈ files,
      BothOrNeither
          (fun text other =>
            Fragment.Rearranged (Text.breakLines text) (Text.breakLines other))
          (fileText t workingDirectory directory file)
          (fileText t' workingDirectory directory file) ∨
        fileText t workingDirectory directory file =
            manifestText t workingDirectory directory ∧
          fileText t' workingDirectory directory file =
            manifestText t' workingDirectory directory

/-- A file with its sections moved around adds the same rows. -/
theorem fileRows?_rel
    (h : BothOrNeither
      (fun text other => Fragment.Rearranged (Text.breakLines text) (Text.breakLines other))
      (fileText t workingDirectory directory file)
      (fileText t' workingDirectory directory file)) :
    Option.Rel List.Perm (fileRows? t workingDirectory directory file)
      (fileRows? t' workingDirectory directory file) := by
  unfold fileRows?
  generalize fileText t workingDirectory directory file = x at h
  generalize fileText t' workingDirectory directory file = y at h
  cases h with
  | neither => exact .none
  | both h =>
    obtain ⟨hblank, hrows⟩ := h.storedRows
    simp only [hblank]
    split_ifs
    · exact .some hrows
    · exact .none

theorem loadRecord_alike (h : Rearranged t t' workingDirectory directory) :
    BothOrNeither RegistryRecord.Alike (loadRecord t workingDirectory directory)
      (loadRecord t' workingDirectory directory) := by
  rw [loadRecord_eq, loadRecord_eq]
  refine h.manifests.with_eq.bind ?_
  rintro manifest other ⟨hrelisted, hmanifest, hother⟩
  refine (hrelisted.files.with_eq.mapError _ _).bind ?_
  rintro files moved ⟨hperm, hfiles, hmoved⟩
  -- a file that is the manifest itself has no rows in either tree, and any other has the same
  have hrows : ∀ file ∈ files, Option.Rel List.Perm
      (fileRows? t workingDirectory directory file)
      (fileRows? t' workingDirectory directory file) := by
    intro file hfile
    rcases h.files manifest files hmanifest hfiles file hfile with hsame | ⟨htext, htext'⟩
    · exact fileRows?_rel hsame
    · rw [fileRows?_of_manifest hmanifest hfiles htext,
        fileRows?_of_manifest hother hmoved htext']
      exact .none
  refine (readSections_alike hperm hrows).bind fun s u hsections => ?_
  exact joined_alike hsections hrelisted.fields

/-- **How sections are laid out over files does not matter.**  If a manifest lists the files in
another order, or a file has its sections in another order, there is a registry exactly if there was
one before.  Then both have the same order, the same titles and bundles, the same aliases and the
same categories, and their entries and records differ in the order of the variants at most. -/
theorem load_rearranged (t t' : FileTree) (workingDirectory : Location) (directory : Path)
    (h : Rearranged t t' workingDirectory directory) :
    ((∃ r, load t workingDirectory directory = .ok r) ↔
        ∃ r', load t' workingDirectory directory = .ok r') ∧
      (∀ r r', load t workingDirectory directory = .ok r →
        load t' workingDirectory directory = .ok r' →
          r.Alike r' ∧ ∀ category, r.byCategory category = r'.byCategory category) ∧
      ∀ made made', loadRecord t workingDirectory directory = .ok made →
        loadRecord t' workingDirectory directory = .ok made' → made.Alike made' := by
  have hrecords := loadRecord_alike h
  have hload : BothOrNeither Alike (load t workingDirectory directory)
      (load t' workingDirectory directory) := by
    unfold load
    generalize loadRecord t workingDirectory directory = x at hrecords
    generalize loadRecord t' workingDirectory directory = y at hrecords
    cases hrecords with
    | both h => exact .both h.registry
    | neither => exact .neither
  refine ⟨hload.succeeds_iff, fun r r' hr hr' => ?_, fun made made' => hrecords.related⟩
  have halike := hload.related hr hr'
  exact ⟨halike, halike.byCategory_eq⟩

/-- A directory with the core helper and one function with two variants, each in a file of its own;
the manifest lists the files, and one file has the sections of the function. -/
def smallDirectory (listed sections : String) : FileTree where
  nodes :=
    [(["lib"], .directory),
      (["lib", "manifest.json"], .file
        ("\x7b\"version\": \"1\", \"fragment_files\": " ++ listed ++ ", \"helpers\": "
          ++ "[\x7b\"name\": \"lodash\"\x7d], \"functions\": "
          ++ "[\x7b\"name\": \"isArray\", \"category\": \"Objects\"\x7d]\x7d")),
      (["lib", "core.js"], .file "//@ lodash\nvar lodash;\n"),
      (["lib", "all.js"], .file sections)]

/-- The manifest of the small directory. -/
def smallManifest (files : List Json) : Json :=
  .object
    [("version", .string "1"), ("fragment_files", .array files),
      ("helpers", .array [.object [("name", .string "lodash")]]),
      ("functions", .array
        [.object [("name", .string "isArray"), ("category", .string "Objects")]])]

/-- The small directory, the default variant first. -/
def defaultFirst : FileTree :=
  smallDirectory "[\"core.js\", \"all.js\"]"
    "//@ isArray\nvar isArray;\n//@ isArray legacy\nvar legacy;\n"

/-- The small directory in another arrangement; the last section ends with the file. -/
def defaultLast : FileTree :=
  smallDirectory "[\"all.js\", \"core.js\"]"
    "//@ isArray legacy\nvar legacy;\n//@ isArray\nvar isArray;"

/-- The registry of the small directory, with the variants of its function. -/
def smallRegistry (variants : List (String × Json)) : Registry where
  header := { version := .string "1" }
  entries :=
    [{ name := "lodash", variants := Table.ofRows [("default", .string "var lodash;")] },
      { name := "isArray", category := "Objects", variants := Table.ofRows variants }]
  aliases := ∅
  order := ["lodash", "isArray"]

theorem readManifest_defaultFirst : readManifest defaultFirst [] (Path.ofText "lib") =
    .ok (smallManifest [.string "core.js", .string "all.js"]) := by
  decide +kernel

theorem readManifest_defaultLast : readManifest defaultLast [] (Path.ofText "lib") =
    .ok (smallManifest [.string "all.js", .string "core.js"]) := by
  decide +kernel

/-- The sections of the function, in either order. -/
theorem rearranged_sections :
    Fragment.Rearranged
      (Text.breakLines "//@ isArray\nvar isArray;\n//@ isArray legacy\nvar legacy;\n")
      (Text.breakLines "//@ isArray legacy\nvar legacy;\n//@ isArray\nvar isArray;") := by
  have hlines : Text.breakLines "//@ isArray\nvar isArray;\n//@ isArray legacy\nvar legacy;\n" =
      ["//@ isArray", "var isArray;", "//@ isArray legacy", "var legacy;"] := by
    decide +kernel
  have hmoved : Text.breakLines "//@ isArray legacy\nvar legacy;\n//@ isArray\nvar isArray;" =
      ["//@ isArray legacy", "var legacy;", "//@ isArray", "var isArray;"] := by
    decide +kernel
  have hdefault : Fragment.marker? "//@ isArray" = some (.variant "isArray" "default") := by
    decide
  have hlegacy : Fragment.marker? "//@ isArray legacy" = some (.variant "isArray" "legacy") := by
    decide
  rw [hlines, hmoved]
  refine ⟨[], [["//@ isArray", "var isArray;"], ["//@ isArray legacy", "var legacy;"]], _, rfl, rfl,
    .swap _ _ _, List.forall_mem_nil _, ?_⟩
  exact List.forall_mem_cons.2
    ⟨.of_marker? hdefault (List.forall_mem_singleton.2 (by decide)),
      List.forall_mem_singleton.2 (.of_marker? hlegacy (List.forall_mem_singleton.2 (by decide)))⟩

theorem rearranged_small : Rearranged defaultFirst defaultLast [] (Path.ofText "lib") := by
  constructor
  · rw [readManifest_defaultFirst, readManifest_defaultLast]
    refine .both ⟨fun name hname => ?_, .both (.swap _ _ _)⟩
    simp only [smallManifest, Json.field?, List.lookup_cons, beq_false_of_ne hname]
  · intro manifest files hread hlisted file hfile
    obtain rfl := Except.ok.inj (readManifest_defaultFirst.symm.trans hread)
    obtain rfl : [.string "core.js", .string "all.js"] = files := Except.ok.inj hlisted
    left
    rcases List.mem_cons.1 hfile with rfl | hfile
    · have hsame : fileText defaultFirst [] (Path.ofText "lib") (.string "core.js") =
          fileText defaultLast [] (Path.ofText "lib") (.string "core.js") := by
        decide +kernel
      rw [← hsame]
      cases fileText defaultFirst [] (Path.ofText "lib") (.string "core.js") with
      | ok text => exact .both (.refl _)
      | error error => exact .neither
    · obtain rfl := List.mem_singleton.1 hfile
      have hfirst : fileText defaultFirst [] (Path.ofText "lib") (.string "all.js") =
          .ok "//@ isArray\nvar isArray;\n//@ isArray legacy\nvar legacy;\n" := by
        decide +kernel
      have hlast : fileText defaultLast [] (Path.ofText "lib") (.string "all.js") =
          .ok "//@ isArray legacy\nvar legacy;\n//@ isArray\nvar isArray;" := by
        decide +kernel
      rw [hfirst, hlast]
      exact .both rearranged_sections

/-- Both arrangements have a registry, and the only difference is the order of two variants. -/
theorem small_rearranged :
    load defaultFirst [] (Path.ofText "lib") =
        .ok (smallRegistry
          [("default", .string "var isArray;"), ("legacy", .string "var legacy;")]) ∧
      load defaultLast [] (Path.ofText "lib") =
        .ok (smallRegistry
          [("legacy", .string "var legacy;"), ("default", .string "var isArray;")]) ∧
      (smallRegistry [("default", .string "var isArray;"), ("legacy", .string "var legacy;")]).Alike
        (smallRegistry
          [("legacy", .string "var legacy;"), ("default", .string "var isArray;")]) := by
  have hfirst : load defaultFirst [] (Path.ofText "lib") =
      .ok (smallRegistry
        [("default", .string "var isArray;"), ("legacy", .string "var legacy;")]) := by
    rw [load, loadRecord_eq, readManifest_defaultFirst]
    decide +kernel
  have hlast : load defaultLast [] (Path.ofText "lib") =
      .ok (smallRegistry
        [("legacy", .string "var legacy;"), ("default", .string "var isArray;")]) := by
    rw [load, loadRecord_eq, readManifest_defaultLast]
    decide +kernel
  obtain ⟨-, halike, -⟩ := load_rearranged defaultFirst defaultLast [] (Path.ofText "lib")
    rearranged_small
  exact ⟨hfirst, hlast, (halike _ _ hfirst hlast).1⟩

end Registry

end CustomBuild
