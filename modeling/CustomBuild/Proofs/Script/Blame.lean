import CustomBuild.Proofs.Related
import CustomBuild.Proofs.Script.Emission
import CustomBuild.Proofs.Text.Basic

/-!
# What omissions are blamed on

An entry that is left out is reported with the entry without a fragment that is to blame.  If there
are several that it leads to, it is the first of them in the order of the registry
(`Registry.FirstMissing`): the walks along dependents start from the missing entries in this order,
and a walk takes along everything that leads to its root and that no earlier walk has taken
(`Omission.root_of_mem_names`).  So no entry is reported twice, and the reports come root by root.

All of this holds in whatever order a walk visits the dependents of an entry, which is why the
statements are about any list of dependents (`Registry.ListsDependents`).  The faults of a script
have the dependents of a root in the order of their messages, which no order of visits changes
(`Omission.flatMap_faults_congr`).  `Registry.generate_blames` is the result.
-/

namespace CustomBuild

/-! ### Walks one after the other -/

namespace Omission

variable {dependents : String → List String} {pool missing : List String} {x : String}

/-- The faults of an omission in the order in which its walk meets the entries. -/
def reported (o : Omission) : List Fault :=
  .noFragment o.root :: o.dependents.map fun name => .dependsOnMissing name o.root

/-- What omissions leave out is in the pool. -/
theorem mem_pool_of_mem_names (hx : x ∈ (ofMissing dependents pool missing).flatMap names) :
    x ∈ pool := by
  obtain ⟨root, -, hroot, hchain⟩ := mem_names_ofMissing_iff.1 hx
  exact hchain.mem_pool hroot

/-- **No name is left out twice.** -/
theorem nodup_names_ofMissing :
    ((ofMissing dependents pool missing).flatMap names).Nodup := by
  induction missing generalizing pool with
  | nil => exact List.nodup_nil
  | cons root rest ih =>
    by_cases hroot : root ∈ pool
    · obtain ⟨o, left, heq, hwalk⟩ := exists_walks dependents rest hroot
      rw [heq, List.flatMap_cons, List.nodup_append]
      refine ⟨hwalk.nodup, ih, ?_⟩
      rintro x hx _ hlater rfl
      exact ((hwalk.mem_left x).1 (mem_pool_of_mem_names hlater)).2 hx
    · rw [ofMissing_cons_of_not_mem dependents rest hroot]
      exact ih

/-- The roots of omissions are missing names, in their order. -/
theorem roots_sublist : ((ofMissing dependents pool missing).map root).Sublist missing := by
  induction missing generalizing pool with
  | nil => exact List.Sublist.refl []
  | cons root rest ih =>
    by_cases hroot : root ∈ pool
    · obtain ⟨o, left, heq, hwalk⟩ := exists_walks dependents rest hroot
      rw [heq, List.map_cons, hwalk.root_eq]
      exact ih.cons_cons root
    · rw [ofMissing_cons_of_not_mem dependents rest hroot]
      exact ih.cons root

/-- **The root of an omission** is the first missing name that leads to what is left out. -/
theorem root_of_mem_names {R : String → String → Prop} {o : Omission} (hsorted : missing.Pairwise R)
    (ho : o ∈ ofMissing dependents pool missing) (hx : x ∈ o.names) :
    o.root ∈ missing ∧ Graph.Reaches (Graph.within pool dependents) o.root x ∧
      ∀ a ∈ missing, a ∈ pool → Graph.Reaches (Graph.within pool dependents) a x →
        a = o.root ∨ R o.root a := by
  induction missing generalizing pool with
  | nil => cases ho
  | cons root rest ih =>
    obtain ⟨hfirst, hrest⟩ := List.pairwise_cons.1 hsorted
    by_cases hroot : root ∈ pool
    · obtain ⟨walk, left, heq, hwalk⟩ := exists_walks dependents rest hroot
      rw [heq, List.mem_cons] at ho
      rcases ho with rfl | ho
      · rw [hwalk.root_eq]
        refine ⟨List.mem_cons_self, (hwalk.mem_names x).1 hx, fun a ha _ _ => ?_⟩
        rcases List.mem_cons.1 ha with rfl | ha
        · exact Or.inl rfl
        · exact Or.inr (hfirst a ha)
      · obtain ⟨hmem, hreach, hleast⟩ := ih hrest ho
        refine ⟨List.mem_cons_of_mem _ hmem, hwalk.reaches_of_left hreach, fun a ha hpool hax => ?_⟩
        -- the first walk has not come to the name, so no chain to it meets that walk
        have hleft : x ∈ left := mem_pool_of_mem_names (List.mem_flatMap.2 ⟨o, ho, hx⟩)
        rcases hwalk.visited_or_left hpool hax with hvisited | ⟨hne, haleft, hax'⟩
        · exact absurd hvisited ((hwalk.mem_left x).1 hleft).2
        · exact hleast a ((List.mem_cons.1 ha).resolve_left hne) haleft hax'
    · rw [ofMissing_cons_of_not_mem dependents rest hroot] at ho
      obtain ⟨hmem, hreach, hleast⟩ := ih hrest ho
      refine ⟨List.mem_cons_of_mem _ hmem, hreach, fun a ha hpool hax => ?_⟩
      have hne : a ≠ root := fun heq => hroot (heq ▸ hpool)
      exact hleast a ((List.mem_cons.1 ha).resolve_left hne) hpool hax

/-! ### The order of dependents -/

theorem dependsOnMissing_message_inj {root a b : String}
    (h : (Fault.dependsOnMissing a root).message = (Fault.dependsOnMissing b root).message) :
    a = b := by
  have hmessage : ∀ name, (Fault.dependsOnMissing name root).message =
      "'" ++ name ++ "' omitted: dependency omitted: " ++ root := fun _ => rfl
  rw [hmessage, hmessage, String.append_left_inj, String.append_left_inj,
    String.append_right_inj] at h
  exact h

/-- Two omissions with one root and the same dependents, in whatever order. -/
structure Alike (o o' : Omission) : Prop where
  /-- the root is the same -/
  root_eq : o.root = o'.root
  /-- so are the dependents -/
  dependents_perm : o.dependents.Perm o'.dependents

/-- The faults of an omission do not depend on the order of its walk. -/
theorem Alike.faults_eq {o o' : Omission} (h : Alike o o') : o.faults = o'.faults := by
  unfold faults
  rw [h.root_eq]
  congr 1
  refine List.Perm.eq_of_pairwise ?_ (Text.pairwise_mergeSort_le Fault.message _)
    (Text.pairwise_mergeSort_le Fault.message _) ?_
  · -- faults of one root with the same message are the same
    intro a b ha hb hab hba
    obtain ⟨x, -, rfl⟩ := List.mem_map.1 (List.mem_mergeSort.1 ha)
    obtain ⟨y, -, rfl⟩ := List.mem_map.1 (List.mem_mergeSort.1 hb)
    rw [dependsOnMissing_message_inj (String.le_antisymm hab hba)]
  · exact (List.mergeSort_perm _ _).trans
      ((h.dependents_perm.map _).trans (List.mergeSort_perm _ _).symm)

/-- An omission with its dependents in the order of their messages. -/
def sorted (o : Omission) : Omission where
  root := o.root
  dependents := o.dependents.mergeSort fun a b =>
    decide ((Fault.dependsOnMissing a o.root).message ≤ (Fault.dependsOnMissing b o.root).message)

theorem reported_sorted (o : Omission) : o.sorted.reported = o.faults := by
  have hdependents : o.sorted.dependents.map (fun name => Fault.dependsOnMissing name o.root) =
      (o.dependents.map fun name => Fault.dependsOnMissing name o.root).mergeSort
        fun a b => decide (a.message ≤ b.message) := List.map_mergeSort fun _ _ _ _ => rfl
  rw [faults, ← hdependents]
  rfl

theorem names_sorted_perm (o : Omission) : o.sorted.names.Perm o.names :=
  (List.mergeSort_perm _ _).cons o.root

/-- **The order in which dependents are visited** does not matter for the omissions. -/
theorem alike_ofMissing {dependents' : String → List String} {pool' : List String}
    (hpool : ∀ u, u ∈ pool ↔ u ∈ pool')
    (hdependents : ∀ u ∈ pool, ∀ v ∈ pool, v ∈ dependents u ↔ v ∈ dependents' u) :
    List.Forall₂ Alike (ofMissing dependents pool missing)
      (ofMissing dependents' pool' missing) := by
  induction missing generalizing pool pool' with
  | nil => exact .nil
  | cons root rest ih =>
    by_cases hroot : root ∈ pool
    · have hroot' := (hpool root).1 hroot
      obtain ⟨o, left, heq, hwalk⟩ := exists_walks dependents rest hroot
      obtain ⟨o', left', heq', hwalk'⟩ := exists_walks dependents' rest hroot'
      -- both walks visit what chains from the root lead to, each name once
      have hvisited : ∀ u, u ∈ o.names ↔ u ∈ o'.names := by
        intro u
        rw [hwalk.mem_names, hwalk'.mem_names]
        constructor
        · intro hu
          exact (hu.within_congr (fun a ha b hb => (hdependents a ha b hb).1) hroot).within_mono
            fun a => (hpool a).1
        · intro hu
          exact (hu.within_mono fun a => (hpool a).2).within_congr
            (fun a ha b hb => (hdependents a ha b hb).2) hroot
      have hleft : ∀ u, u ∈ left ↔ u ∈ left' := by
        intro u
        rw [hwalk.mem_left, hwalk'.mem_left, hpool, hvisited]
      have hsub : ∀ u ∈ left, u ∈ pool := fun u hu => ((hwalk.mem_left u).1 hu).1
      have hperm : o.names.Perm o'.names :=
        (List.perm_ext_iff_of_nodup hwalk.nodup hwalk'.nodup).2 hvisited
      have hroots : o.root = o'.root := hwalk.root_eq.trans hwalk'.root_eq.symm
      rw [names, names, hroots, List.perm_cons] at hperm
      rw [heq, heq']
      exact .cons ⟨hroots, hperm⟩
        (ih hleft fun u hu v hv => hdependents u (hsub u hu) v (hsub v hv))
    · rw [ofMissing_cons_of_not_mem dependents rest hroot,
        ofMissing_cons_of_not_mem dependents' rest (mt (hpool root).2 hroot)]
      exact ih hpool hdependents

theorem flatMap_faults_eq {omissions omissions' : List Omission}
    (h : List.Forall₂ Alike omissions omissions') :
    omissions.flatMap faults = omissions'.flatMap faults :=
  flatMap_eq_of_forall₂ (fun _ _ halike => halike.faults_eq) h

/-- So it does not matter for the faults. -/
theorem flatMap_faults_congr {dependents' : String → List String} {pool' : List String}
    (hpool : ∀ u, u ∈ pool ↔ u ∈ pool')
    (hdependents : ∀ u ∈ pool, ∀ v ∈ pool, v ∈ dependents u ↔ v ∈ dependents' u) :
    (ofMissing dependents pool missing).flatMap faults =
      (ofMissing dependents' pool' missing).flatMap faults :=
  flatMap_faults_eq (alike_ofMissing hpool hdependents)

end Omission

/-! ### What a script reports -/

/-- What is reported of an entry that is left out because of a root, which may be the entry. -/
def omissionMessage (x root : String) : String :=
  if root = x then "'" ++ x ++ "' has no fragment for the active modes; omitted"
  else "'" ++ x ++ "' omitted: dependency omitted: " ++ root

/-- The messages of an omission if all of its names are blamed on its root. -/
theorem Omission.map_message_reported {o : Omission} {blame : String → String}
    (hnodup : o.names.Nodup) (hblame : ∀ x ∈ o.names, blame x = o.root) :
    o.reported.map Fault.message = o.names.map fun x => omissionMessage x (blame x) := by
  obtain ⟨hroot, hdependents⟩ := List.forall_mem_cons.1 hblame
  have hne := (List.nodup_cons.1 hnodup).1
  rw [reported, names, List.map_cons, List.map_cons, List.map_map, hroot, omissionMessage,
    if_pos rfl]
  congr 1
  refine List.map_congr_left fun x hx => ?_
  have hx' : ¬ o.root = x := fun heq => hne (heq ▸ hx)
  rw [hdependents x hx, omissionMessage, if_neg hx']
  rfl

namespace Registry

variable {r : Registry} {c d : Command} {s : Selection} {modes : NameSet}
  {emitted names : List String} {dependents : String → List String} {x m : String}

/-- **The entry that an omission is blamed on**: of the entries without a fragment that
dependencies between the emitted entries lead to, the first one in the order of the registry. -/
structure FirstMissing (r : Registry) (modes : NameSet) (emitted : List String) (x m : String) :
    Prop where
  /-- it could be emitted -/
  mem : m ∈ emitted
  /-- it has no fragment for the active modes -/
  missing : r.fragment? modes m = none
  /-- dependencies lead to it -/
  needed : Relation.ReflTransGen (r.NeedsWithin emitted) x m
  /-- every other such entry comes later -/
  first : ∀ other ∈ emitted, r.fragment? modes other = none →
    Relation.ReflTransGen (r.NeedsWithin emitted) x other → other = m ∨ r.Precedes m other

theorem FirstMissing.unique {m' : String} (h : r.FirstMissing modes emitted x m)
    (h' : r.FirstMissing modes emitted x m') : m = m' := by
  rcases h.first m' h'.mem h'.missing h'.needed with heq | hlt
  · exact heq.symm
  · rcases h'.first m h.mem h.missing h.needed with heq | hgt
    · exact heq
    · exact absurd hgt (Nat.lt_asymm hlt)

/-- The entries of a script without a fragment. -/
def missingFor (r : Registry) (modes : NameSet) (names : List String) : List String :=
  (r.candidates names).filter fun name => (r.fragment? modes name).isNone

/-- The omissions of a script, with the dependents of an entry in any order. -/
def omissionsBy (r : Registry) (dependents : String → List String) (modes : NameSet)
    (names : List String) : List Omission :=
  Omission.ofMissing dependents (r.candidates names) (r.missingFor modes names)

/-- **Omissions with the right roots**, root by root. -/
structure Rooted (r : Registry) (modes : NameSet) (emitted : List String)
    (omissions : List Omission) : Prop where
  /-- no entry is left out twice -/
  nodup : (omissions.flatMap Omission.names).Nodup
  /-- left out are the entries that lead to one without a fragment -/
  mem_iff : ∀ x, x ∈ omissions.flatMap Omission.names ↔
    x ∈ emitted ∧ ∃ m ∈ emitted, r.fragment? modes m = none ∧
      Relation.ReflTransGen (r.NeedsWithin emitted) x m
  /-- each of them is left out for the first such entry -/
  first : ∀ o ∈ omissions, ∀ x ∈ o.names, r.FirstMissing modes emitted x o.root
  /-- the roots come in the order of the registry -/
  roots : (omissions.map Omission.root).Pairwise r.Precedes

/-- **What faults blame for entries that are left out.** -/
structure Blamed (r : Registry) (modes : NameSet) (emitted omitted : List String)
    (faults : List Fault) : Prop where
  /-- no entry is left out twice -/
  nodup : omitted.Nodup
  /-- left out are the entries that lead to one without a fragment -/
  mem_iff : ∀ x, x ∈ omitted ↔
    x ∈ emitted ∧ ∃ m ∈ emitted, r.fragment? modes m = none ∧
      Relation.ReflTransGen (r.NeedsWithin emitted) x m
  /-- each of them has one message, which blames the first such entry, and the entries that are
  blamed come in the order of the registry -/
  reported : ∃ blame : String → String,
    (∀ x ∈ omitted, r.FirstMissing modes emitted x (blame x)) ∧
    faults.map Fault.message = omitted.map (fun x => omissionMessage x (blame x)) ∧
    omitted.Pairwise fun x y => blame x = blame y ∨ r.Precedes (blame x) (blame y)

namespace Rooted

variable {omissions : List Omission}

/-- Sorting the dependents of each root changes neither what is left out nor the roots. -/
theorem sorted (h : r.Rooted modes emitted omissions) :
    r.Rooted modes emitted (omissions.map Omission.sorted) := by
  have hperm : ((omissions.map Omission.sorted).flatMap Omission.names).Perm
      (omissions.flatMap Omission.names) := by
    rw [List.flatMap_map]
    exact List.Perm.flatMap_left omissions fun o _ => o.names_sorted_perm
  refine ⟨hperm.nodup_iff.2 h.nodup, fun x => hperm.mem_iff.trans (h.mem_iff x), ?_, ?_⟩
  · intro sorted hsorted x hx
    obtain ⟨o, ho, rfl⟩ := List.mem_map.1 hsorted
    exact h.first o ho x (o.names_sorted_perm.mem_iff.1 hx)
  · rw [List.map_map]
    exact h.roots

/-- **The reports of omissions** blame the right entries. -/
theorem blamed (h : r.Rooted modes emitted omissions) :
    r.Blamed modes emitted (omissions.flatMap Omission.names)
      (omissions.flatMap Omission.reported) := by
  have hexists : ∀ x ∈ omissions.flatMap Omission.names, ∃ m, r.FirstMissing modes emitted x m := by
    intro x hx
    obtain ⟨o, ho, hxo⟩ := List.mem_flatMap.1 hx
    exact ⟨o.root, h.first o ho x hxo⟩
  -- the first missing entry is unique, so the chosen ones are the roots
  choose! blame hblame using hexists
  have hroot : ∀ o ∈ omissions, ∀ x ∈ o.names, blame x = o.root := by
    intro o ho x hx
    exact (hblame x (List.mem_flatMap.2 ⟨o, ho, hx⟩)).unique (h.first o ho x hx)
  refine ⟨h.nodup, h.mem_iff, blame, hblame, ?_, ?_⟩
  · rw [List.map_flatMap, List.map_flatMap]
    refine List.flatMap_congr fun o ho => ?_
    have honce : o.names.Nodup := (List.nodup_flatMap.1 h.nodup).1 o ho
    exact Omission.map_message_reported honce (hroot o ho)
  · rw [List.pairwise_flatMap]
    constructor
    · intro o ho
      refine List.pairwise_of_forall_mem_list fun x hx y hy => Or.inl ?_
      rw [hroot o ho x hx, hroot o ho y hy]
    · have hroots := h.roots
      rw [List.pairwise_map] at hroots
      refine hroots.imp_of_mem fun ho ho' hlt x hx y hy => Or.inr ?_
      rw [hroot _ ho x hx, hroot _ ho' y hy]
      exact hlt

end Rooted

namespace Accepted

theorem pairwise_missingFor (h : r.Accepted) : (r.missingFor modes names).Pairwise r.Precedes :=
  (h.pairwise_precedes_filter _).filter _

theorem firstMissing_of_mem_names {o : Omission} (h : r.Accepted)
    (hdependents : r.ListsDependents (r.candidates names) dependents)
    (ho : o ∈ r.omissionsBy dependents modes names) (hx : x ∈ o.names) :
    r.FirstMissing modes (r.candidates names) x o.root := by
  obtain ⟨hmissing, hreach, hfirst⟩ := Omission.root_of_mem_names h.pairwise_missingFor ho hx
  obtain ⟨hroot, hnone⟩ := List.mem_filter.1 hmissing
  refine ⟨hroot, Option.isNone_iff_eq_none.1 hnone, ((hdependents.reaches_iff hroot).1 hreach).2,
    fun other hother hothernone hneeded => ?_⟩
  have hx' := ((hdependents.reaches_iff hroot).1 hreach).1
  exact hfirst other (List.mem_filter.2 ⟨hother, Option.isNone_iff_eq_none.2 hothernone⟩) hother
    ((hdependents.reaches_iff hother).2 ⟨hx', hneeded⟩)

/-- **The omissions of a script** have the right roots, in whatever order dependents are visited. -/
theorem rooted_omissionsBy (h : r.Accepted)
    (hdependents : r.ListsDependents (r.candidates names) dependents) :
    r.Rooted modes (r.candidates names) (r.omissionsBy dependents modes names) where
  nodup := Omission.nodup_names_ofMissing
  mem_iff _ := hdependents.mem_omitted_iff
  first _ ho _ hx := h.firstMissing_of_mem_names hdependents ho hx
  roots := h.pairwise_missingFor.sublist Omission.roots_sublist

/-- **Generating a script** that has the core helper comes to a plan. -/
theorem generate_eq_ofPlan (h : r.Accepted) (hcore : r.contains coreName = true)
    (hnames : names ≠ []) (horder : ∀ a ∈ names, a ∈ r.order) :
    ∃ p, Script.generate r c names = Script.ofPlan r.header c p ∧
      p.omissions = r.omissionsFor c.modes names := by
  unfold Script.generate Script.planFor
  rw [if_neg (mt List.isEmpty_iff.1 hnames), if_pos hcore, h.plan_eq horder]
  exact ⟨_, rfl, rfl⟩

end Accepted

/-- There is no script for want of the core helper exactly if it is left out. -/
theorem outcome_ofPlan_eq_core_iff {header : RegistryHeader} {p : Plan} {fault : Fault} :
    (Script.ofPlan header c p).outcome = .error (.core fault) ↔
      fault = .coreLeftOut ∧ coreName ∈ p.omitted := by
  unfold Script.ofPlan
  simp only
  by_cases hcore : coreName ∈ p.omitted
  · rw [if_pos (List.contains_iff_mem.2 hcore)]
    simp [hcore, eq_comm]
  · rw [if_neg (mt List.contains_iff_mem.1 hcore)]
    cases p.misuse? <;> simp [hcore]

/-- **What a script reports.**  The entries that a script could emit are the core helper, the
selected functions and the helpers that these need.  In whatever order their dependents are visited,
those left out are the ones that lead to an entry without a fragment, and each is reported once with
the first such entry.  The faults of a script are these reports, with the dependents of a root in
the order of their messages; for want of the core helper there is no script exactly if that is left
out. -/
theorem generate_blames {entries : List Entry} {header : RegistryHeader}
    (hr : ofEntries entries header = .ok r) (hcore : r.contains coreName = true)
    (hs : r.select d = .ok s) (hnames : s.names ≠ []) (c : Command)
    (hdependents : r.ListsDependents (r.candidates s.names) dependents) :
    (∀ x, x ∈ r.candidates s.names ↔ r.Wanted s.names x) ∧
      r.Blamed c.modes (r.candidates s.names)
        ((r.omissionsBy dependents c.modes s.names).flatMap Omission.names)
        ((r.omissionsBy dependents c.modes s.names).flatMap Omission.reported) ∧
      (Script.generate r c s.names).faults =
        ((r.omissionsBy dependents c.modes s.names).map Omission.sorted).flatMap
          Omission.reported ∧
      ∃ omitted, r.Blamed c.modes (r.candidates s.names) omitted
          (Script.generate r c s.names).faults ∧
        ∀ fault, (Script.generate r c s.names).outcome = .error (.core fault) ↔
          fault = .coreLeftOut ∧ coreName ∈ omitted := by
  obtain ⟨h, -, -⟩ := accepted_of_ofEntries hr
  have horder : ∀ a ∈ s.names, a ∈ r.order := fun _ ha => mem_order_of_mem_names h hs ha
  have hmem : coreName ∈ r.order := by
    obtain ⟨e, he⟩ := Option.isSome_iff_exists.1 hcore
    exact h.mem_order_iff.2 ⟨e, mem_entries_of_lookup he⟩
  have hstandard : r.ListsDependents (r.candidates s.names)
      (dependentsIn (r.dependencyRows (r.candidates s.names))) := h.listsDependents_dependentsIn
  obtain ⟨p, hgenerate, homissions⟩ := h.generate_eq_ofPlan (c := c) hcore hnames horder
  have hfaults : (Script.generate r c s.names).faults =
      ((r.omissionsBy dependents c.modes s.names).map Omission.sorted).flatMap
        Omission.reported := by
    -- the plan visits dependents in the order of the candidates, which makes no difference
    rw [hgenerate, Script.ofPlan, Plan.faults, homissions, List.flatMap_map]
    simp only [Omission.reported_sorted]
    exact Omission.flatMap_faults_congr (fun _ => Iff.rfl) fun u hu v _ =>
      (hstandard u hu v).trans (hdependents u hu v).symm
  have hrooted : r.Rooted c.modes (r.candidates s.names)
      (r.omissionsBy dependents c.modes s.names) := h.rooted_omissionsBy hdependents
  have hsorted := hrooted.sorted.blamed
  rw [← hfaults] at hsorted
  refine ⟨fun x => h.mem_candidates_iff hmem horder, hrooted.blamed, hfaults, _, hsorted,
    fun fault => ?_⟩
  rw [hgenerate, outcome_ofPlan_eq_core_iff, Plan.omitted, homissions]
  exact and_congr_right fun _ => h.mem_omitted_iff.trans (hsorted.mem_iff coreName).symm

/-- The small registry has an entry without a fragment that a function needs; the dependents are
visited from the last to the first. -/
theorem sample_blames :
    ofEntries sampleEntries sampleHeader = .ok sample ∧ sample.contains coreName = true ∧
      sample.select sampleCommand = .ok sampleSelection ∧ sampleSelection.names ≠ [] ∧
      ∃ dependents, sample.ListsDependents (sample.candidates sampleSelection.names) dependents ∧
        sample.Blamed ∅ (sample.candidates sampleSelection.names)
          ((sample.omissionsBy dependents ∅ sampleSelection.names).flatMap Omission.names)
          ((sample.omissionsBy dependents ∅ sampleSelection.names).flatMap Omission.reported) ∧
        (∃ omitted, sample.Blamed ∅ (sample.candidates sampleSelection.names) omitted
          (Script.generate sample sampleCommand sampleSelection.names).faults) ∧
        (Script.generate sample sampleCommand sampleSelection.names).faults =
          [.noFragment "shimKeys", .dependsOnMissing "keys" "shimKeys"] := by
  obtain ⟨h, -, -⟩ := accepted_of_ofEntries ofEntries_sampleEntries
  have hcore : sample.contains coreName = true := by decide
  have hnames : sampleSelection.names ≠ [] := by decide
  have hdependents : sample.ListsDependents (sample.candidates sampleSelection.names) fun a =>
      (dependentsIn (sample.dependencyRows (sample.candidates sampleSelection.names)) a).reverse :=
    fun a ha b => List.mem_reverse.trans (h.listsDependents_dependentsIn a ha b)
  obtain ⟨-, hblamed, -, omitted, hfaults, -⟩ := generate_blames ofEntries_sampleEntries hcore
    select_sampleCommand hnames sampleCommand hdependents
  refine ⟨ofEntries_sampleEntries, hcore, select_sampleCommand, hnames, _, hdependents, hblamed,
    ⟨omitted, hfaults⟩, ?_⟩
  have hplan : Script.planFor sample sampleCommand.modes sampleSelection.names = .ok samplePlan :=
    planFor_sample
  rw [Script.generate, hplan]
  decide +kernel

end Registry

end CustomBuild
