import CustomBuild.Proofs.Build.Boundary
import CustomBuild.Proofs.FileTree.Together

/-!
# Independent builds

Builds that go to files which are not in each other's way do not depend on one another
(`Site.builds_commute`).  In whatever order they are built, and whatever is built before them, each
comes to the same end, and the file tree is the same when all have been built.  So do builds that go
on at one time, with the calls of their deliveries in any order.

One thing can differ.  If a name above another directory on the way to a file is too long, the error
is about a directory from that name on, and about which one depends on the directories that are
there already (`Site.FailsAtLongName`, `Site.long_name_tells_order`).

A build touches the file tree with its delivery alone, so that all comes down to the deliveries
together (`Underway.Consistent`).
-/

namespace CustomBuild

open FileTree

/-- All that a build did, but for the tree. -/
def Outcome.withoutTree (o : Outcome) : Outcome :=
  { o with tree := {} }

/-- The error of a delivery that has ended. -/
def Stage.error? : Stage → Option DeliveryError
  | .ended error => error
  | _ => none

namespace Site

variable {site : Site} {tokens : List String} {t u : FileTree} {x : Parcel}
  {d : Draft} {path : String}
  {error error' : Option DeliveryError} {o o' : Outcome} {ι : Type}

/-! ### A build and its delivery -/

/-- Where a command asks its source to go, if it is to go to a file. -/
def destination? (tokens : List String) : Option String :=
  match Command.ofTokens tokens with
  | .error _ => none
  | .ok c => c.destination

/-- What a build has to deliver to a file, if it has anything. -/
def parcel? (site : Site) (tokens : List String) : Option Parcel :=
  match site.draft tokens with
  | .error _ => none
  | .ok d => d.command.destination.map fun path =>
      { path, text := if (site.halves? d.source).isSome then "" else d.source }

/-- What the builds of commands have to deliver. -/
def parcels (site : Site) (commands : ι → List String) (i : ι) : Option Parcel :=
  site.parcel? (commands i)

/-- The end of a delivery to a file, by the tree after it and the error that it had. -/
def finishDelivery (site : Site) (d : Draft) (path : String) (t : FileTree) :
    Option DeliveryError → Outcome
  | some .nullCharacter => abandon d .nullInPath t
  | some .tooDeep => abandon d .tooDeep t
  | some (.file error) => site.finishOnFile d path t (some error.message)
  | none =>
    match site.halves? d.source with
    | some run => abandon d (.halves run) t
    | none => site.finishOnFile d path t none

/-- **The end of a build**, by the tree after its delivery and the error that this had. -/
def finish (site : Site) (tokens : List String) (t : FileTree) (error : Option DeliveryError) :
    Outcome :=
  match site.draft tokens with
  | .error (.refused diagnostic) => ({ site with tree := t } : Site).refuse tokens diagnostic
  | .error (.aborted abort) => { result := .error abort, tree := t }
  | .ok d =>
    match d.command.destination with
    | none => ({ site with tree := t } : Site).finishOnStream d
    | some path => site.finishDelivery d path t error

/-- The tree of the site is for the delivery alone. -/
theorem finish_withTree (site : Site) (tokens : List String) (t u : FileTree)
    (error : Option DeliveryError) :
    ({ site with tree := u } : Site).finish tokens t error = site.finish tokens t error := rfl

theorem parcel?_eq_some_iff :
    site.parcel? tokens = some x ↔ ∃ d, site.draft tokens = .ok d ∧
      d.command.destination = some x.path ∧
      x.text = if (site.halves? d.source).isSome then "" else d.source := by
  obtain ⟨path, text⟩ := x
  unfold parcel?
  cases site.draft tokens with
  | error refusal => simp
  | ok d =>
    simp only [Option.map_eq_some_iff, Parcel.mk.injEq, Except.ok.injEq]
    constructor
    · rintro ⟨_, hpath, rfl, rfl⟩
      exact ⟨d, rfl, hpath, rfl⟩
    · rintro ⟨_, rfl, hpath, rfl⟩
      exact ⟨path, hpath, rfl, rfl⟩

/-- What goes to a file is finished by its delivery. -/
theorem finish_of_some (hdraft : site.draft tokens = .ok d)
    (hpath : d.command.destination = some path) :
    site.finish tokens t error = site.finishDelivery d path t error := by
  rw [finish, hdraft]
  simp only [hpath]

/-- A build without a parcel has nothing to do with a delivery. -/
theorem finish_of_none (hx : site.parcel? tokens = none) :
    site.finish tokens t error = ({ site with tree := t } : Site).build tokens := by
  unfold parcel? at hx
  unfold finish build
  show _ = match site.draft tokens with
    | .error (.refused diagnostic) => ({ site with tree := t } : Site).refuse tokens diagnostic
    | .error (.aborted abort) => { result := .error abort, tree := t }
    | .ok d => ({ site with tree := t } : Site).deliver d
  cases hdraft : site.draft tokens with
  | error refusal => cases refusal <;> rfl
  | ok d =>
    simp only [hdraft, Option.map_eq_none_iff] at hx
    simp only [hx, deliver]

/-- **A build is its delivery**, and what it tells of that. -/
theorem build_of_some (site : Site) (hx : site.parcel? tokens = some x) :
    site.build tokens = site.finish tokens
      (site.tree.deliver site.workingDirectory x.path x.text).1
      (site.tree.deliver site.workingDirectory x.path x.text).2 := by
  obtain ⟨d, hdraft, hpath, htext⟩ := parcel?_eq_some_iff.1 hx
  rw [finish_of_some hdraft hpath, build, hdraft]
  simp only [deliver, hpath, ← htext]
  obtain ⟨t, error⟩ := site.tree.deliver site.workingDirectory x.path x.text
  cases error with
  | none => cases hhalves : site.halves? d.source <;> simp only [finishDelivery, hhalves]
  | some error => cases error <;> rfl

theorem tree_finishDelivery (site : Site) (d : Draft) (path : String) (t : FileTree)
    (error : Option DeliveryError) : (site.finishDelivery d path t error).tree = t := by
  unfold finishDelivery
  split
  · rfl
  · rfl
  · rfl
  · split <;> rfl

theorem tree_finish (site : Site) (tokens : List String) (t : FileTree)
    (error : Option DeliveryError) : (site.finish tokens t error).tree = t := by
  unfold finish
  split
  · rfl
  · rfl
  · split
    · rfl
    · exact tree_finishDelivery _ _ _ _ _

theorem withoutTree_finishDelivery (site : Site) (d : Draft) (path : String) (t u : FileTree)
    (error : Option DeliveryError) :
    (site.finishDelivery d path t error).withoutTree =
      (site.finishDelivery d path u error).withoutTree := by
  unfold finishDelivery
  split
  · rfl
  · rfl
  · rfl
  · split <;> rfl

/-- But for the tree, a build depends on the error of its delivery alone. -/
theorem withoutTree_finish (site : Site) (tokens : List String) (t u : FileTree)
    (error : Option DeliveryError) :
    (site.finish tokens t error).withoutTree = (site.finish tokens u error).withoutTree := by
  unfold finish
  split
  · rfl
  · rfl
  · split
    · rfl
    · exact withoutTree_finishDelivery _ _ _ _ _ _

/-! ### Ends that are alike -/

/-- **A build fails at a name that is too long**, which is that of a directory above another one on
the way to its file. -/
def FailsAtLongName (site : Site) (tokens : List String) (o : Outcome) : Prop :=
  ∃ d path error, site.draft tokens = .ok d ∧ d.command.destination = some path ∧
    (∃ part ∈ (Path.ofText path).parent.parts.dropLast, IsLong part) ∧
    NamesLong (Path.ofText path).parent.parts error ∧
    o.withoutTree = site.finishOnFile d path {} (some error.message)

/-- **A build ends alike** in two trees: it does the same, unless both times it fails at a name that
is too long.  Then the error may be about another directory from that name on. -/
def EndsAlike (site : Site) (tokens : List String) (o o' : Outcome) : Prop :=
  o.withoutTree = o'.withoutTree ∨
    site.FailsAtLongName tokens o ∧ site.FailsAtLongName tokens o'

theorem FailsAtLongName.of_withoutTree_eq (h : site.FailsAtLongName tokens o)
    (heq : o.withoutTree = o'.withoutTree) : site.FailsAtLongName tokens o' := by
  obtain ⟨d, path, error, hdraft, hpath, hlong, hnames, ho⟩ := h
  exact ⟨d, path, error, hdraft, hpath, hlong, hnames, heq ▸ ho⟩

theorem endsAlike_equivalence (site : Site) (tokens : List String) :
    Equivalence (site.EndsAlike tokens) where
  refl _ := Or.inl rfl
  symm h := h.imp Eq.symm And.symm
  trans := by
    rintro o o' o'' (heq | ⟨ho, ho'⟩) (heq' | ⟨hlong, hlong'⟩)
    · exact Or.inl (heq.trans heq')
    · exact Or.inr ⟨hlong.of_withoutTree_eq heq.symm, hlong'⟩
    · exact Or.inr ⟨ho, ho'.of_withoutTree_eq heq'⟩
    · exact Or.inr ⟨ho, hlong'⟩

/-- **The listener is told the same** in any case. -/
theorem EndsAlike.notices_eq (h : site.EndsAlike tokens o o') : o.notices = o'.notices := by
  rcases h with heq | ⟨⟨d, path, error, hdraft, hpath, -, -, ho⟩,
    ⟨d', path', error', hdraft', hpath', -, -, ho'⟩⟩
  · have hnotices := congrArg Outcome.notices heq
    exact hnotices
  · obtain rfl := Except.ok.inj (hdraft.symm.trans hdraft')
    obtain rfl := Option.some.inj (hpath.symm.trans hpath')
    have hnotices := congrArg Outcome.notices ho
    exact hnotices.trans (congrArg Outcome.notices ho').symm

/-- **Ends that a delivery can have** make a build end alike. -/
theorem endsAlike_finish
    (h : ∀ x, site.parcel? tokens = some x →
      (∃ reach, site.tree.CanEnd site.workingDirectory x.target reach error) ∧
        ∃ reach, site.tree.CanEnd site.workingDirectory x.target reach error') :
    site.EndsAlike tokens (site.finish tokens t error) (site.finish tokens u error') := by
  cases hx : site.parcel? tokens with
  | none =>
    have hsame : site.finish tokens t error = site.finish tokens t error' := by
      rw [finish_of_none hx, finish_of_none hx]
    left
    rw [hsame]
    exact withoutTree_finish site tokens t u error'
  | some x =>
    obtain ⟨⟨reach, hend⟩, ⟨reach', hend'⟩⟩ := h x hx
    rcases (hend.unique hend').2 with rfl | ⟨hlong, long, long', rfl, rfl, hnames, hnames'⟩
    · exact Or.inl (withoutTree_finish site tokens t u error)
    · obtain ⟨d, hdraft, hpath, -⟩ := parcel?_eq_some_iff.1 hx
      right
      rw [finish_of_some hdraft hpath, finish_of_some hdraft hpath]
      exact ⟨⟨d, x.path, long, hdraft, hpath, hlong, hnames, rfl⟩,
        ⟨d, x.path, long', hdraft, hpath, hlong, hnames', rfl⟩⟩

/-! ### Builds one after the other -/

/-- The tree after building one command after the other. -/
def treeAfter (site : Site) (commands : List (List String)) : FileTree :=
  ((site.buildAll commands).map Outcome.tree).getLastD site.tree

theorem treeAfter_cons (site : Site) (tokens : List String) (commands : List (List String)) :
    site.treeAfter (tokens :: commands) =
      ({ site with tree := (site.build tokens).tree } : Site).treeAfter commands := by
  rw [treeAfter, buildAll, List.map_cons, List.getLastD_cons]
  rfl

theorem buildAll_pair (site : Site) (first second : List String) :
    site.buildAll [first, second] =
      [site.build first, ({ site with tree := (site.build first).tree } : Site).build second] :=
  rfl

section InTurn

variable [DecidableEq ι] {commands : ι → List String} {s : Underway ι}

/-- **A build among others** is the turn of its delivery. -/
theorem exists_build_eq_finish (site : Site) (commands : ι → List String) (i : ι)
    (s : Underway ι) :
    ∃ error, ({ site with tree := s.tree } : Site).build (commands i) =
        site.finish (commands i)
          (s.turn site.workingDirectory (site.parcels commands) i).tree error ∧
      ∀ x, site.parcels commands i = some x →
        (s.turn site.workingDirectory (site.parcels commands) i).stage i = .ended error := by
  cases hx : site.parcels commands i with
  | none =>
    rw [Underway.turn_of_none hx]
    exact ⟨none, (finish_of_none hx).symm, nofun⟩
  | some x =>
    rw [Underway.turn_of_some hx]
    exact ⟨_, build_of_some { site with tree := s.tree } hx,
      fun _ _ => Underway.stage_deliver_self _ _ _ _⟩

/-- **Builds one after the other** leave the tree that their deliveries leave. -/
theorem treeAfter_eq (site : Site) (commands : ι → List String) (order : List ι)
    (s : Underway ι) :
    ({ site with tree := s.tree } : Site).treeAfter (order.map commands) =
      (s.inTurn site.workingDirectory (site.parcels commands) order).tree := by
  induction order generalizing s with
  | nil => rfl
  | cons i rest ih =>
    obtain ⟨error, hbuild, -⟩ := exists_build_eq_finish site commands i s
    rw [List.map_cons, treeAfter_cons, hbuild, tree_finish]
    exact ih (s.turn site.workingDirectory (site.parcels commands) i)

/-- **Each of them ends** as its delivery does. -/
theorem exists_buildAll_eq (site : Site) (commands : ι → List String) {order : List ι}
    (hnodup : order.Nodup) {k : ℕ} {i : ι} (hk : order[k]? = some i) (s : Underway ι) :
    ∃ t error, (({ site with tree := s.tree } : Site).buildAll (order.map commands))[k]? =
        some (site.finish (commands i) t error) ∧
      ∀ x, site.parcels commands i = some x →
        (s.inTurn site.workingDirectory (site.parcels commands) order).stage i =
          .ended error := by
  induction order generalizing s k with
  | nil => cases hk
  | cons j rest ih =>
    obtain ⟨hj, hrest⟩ := List.nodup_cons.1 hnodup
    obtain ⟨error, hbuild, hstage⟩ := exists_build_eq_finish site commands j s
    rw [List.map_cons, buildAll, hbuild, tree_finish]
    cases k with
    | zero =>
      obtain rfl := Option.some.inj hk
      refine ⟨_, error, rfl, fun x hx => ?_⟩
      rw [Underway.inTurn, Underway.stage_inTurn_of_not_mem hj]
      exact hstage x hx
    | succ k => exact ih hrest hk _

/-- When all builds have had their turn, all have ended. -/
theorem hasEnded_inTurn (site : Site) (commands : ι → List String) {order : List ι}
    (hnodup : order.Nodup) (hall : ∀ i, i ∈ order) (s : Underway ι) :
    (s.inTurn site.workingDirectory (site.parcels commands) order).HasEnded
      (site.parcels commands) :=
  fun i _ hx => Underway.stage_inTurn_of_mem hnodup (hall i) hx

/-- **Builds that go on at one time** come to `s`, with the calls of their deliveries in some
order. -/
def Reaches (site : Site) (commands : ι → List String) (s : Underway ι) : Prop :=
  Underway.Runs site.workingDirectory (site.parcels commands) (.outset site.tree) s

/-- Builds one after the other are a case of that. -/
theorem reaches_inTurn (site : Site) (commands : ι → List String) {order : List ι}
    (hnodup : order.Nodup) :
    site.Reaches commands
      ((Underway.outset site.tree).inTurn site.workingDirectory (site.parcels commands) order) :=
  Underway.runs_inTurn hnodup fun _ _ => rfl

end InTurn

/-! ### Independent builds -/

/-- **Commands are independent** if they go to files that are not in each other's way. -/
structure Independent (site : Site) (commands : ι → List String) : Prop where
  /-- everything in the tree is in a directory -/
  closed : site.tree.IsClosed
  /-- the working directory is one -/
  there : site.tree.node? site.workingDirectory = some .directory
  /-- the paths are relative and do not lead up -/
  down : ∀ i path, destination? (commands i) = some path → (Path.ofText path).GoesDown
  /-- not too many directories are missing -/
  shallow : ∀ i path, destination? (commands i) = some path →
    site.tree.isTooDeep site.workingDirectory (Path.ofText path) = false
  /-- no path is the beginning of that of another command -/
  apart : ∀ i j path other, destination? (commands i) = some path →
    destination? (commands j) = some other → i ≠ j →
    ¬ (Path.ofText path).parts <+: (Path.ofText other).parts

theorem destination?_of_parcels {commands : ι → List String} {i : ι}
    (hx : site.parcels commands i = some x) : destination? (commands i) = some x.path := by
  obtain ⟨d, hdraft, hpath, -⟩ := parcel?_eq_some_iff.1 hx
  have hcommand := (readCommand_eq_ok_iff.1 (draft_eq_ok hdraft).1).1
  rw [destination?, hcommand]
  exact hpath

/-- Then their deliveries are apart. -/
theorem Independent.apart_parcels {commands : ι → List String} (h : site.Independent commands) :
    site.tree.Apart site.workingDirectory (site.parcels commands) where
  closed := h.closed
  there := h.there
  down i x hx := h.down i x.path (destination?_of_parcels hx)
  shallow i x hx := h.shallow i x.path (destination?_of_parcels hx)
  apart i j x y hx hy := h.apart i j x.path y.path (destination?_of_parcels hx)
    (destination?_of_parcels hy)

/-- **Builds that do not depend on one another.** -/
structure Commute (site : Site) (commands : List (List String)) : Prop where
  /-- in whatever order they are built, and whichever of them, each ends alike, and the listener is
  told the same -/
  alike : ∀ order order' : List (Fin commands.length), order.Nodup → order'.Nodup →
    ∀ (k k' : ℕ) (i : Fin commands.length), order[k]? = some i → order'[k']? = some i →
      ∃ o o', (site.buildAll (order.map commands.get))[k]? = some o ∧
        (site.buildAll (order'.map commands.get))[k']? = some o' ∧
        site.EndsAlike (commands.get i) o o' ∧ o.notices = o'.notices
  /-- after all of them the tree is the same -/
  tree_eq : ∀ order order' : List (Fin commands.length),
    order.Perm (List.finRange commands.length) → order'.Perm (List.finRange commands.length) →
      ∀ place, (site.treeAfter (order.map commands.get)).node? place =
        (site.treeAfter (order'.map commands.get)).node? place
  /-- if they go on at one time, they do not go on for ever -/
  ends : WellFounded fun s' s : Underway (Fin commands.length) =>
    Underway.Step site.workingDirectory (site.parcels commands.get) s s'
  /-- and when there are no more calls, they have come to what they come to one after the other -/
  together : ∀ s : Underway (Fin commands.length), site.Reaches commands.get s →
    (∀ s', ¬ Underway.Step site.workingDirectory (site.parcels commands.get) s s') →
      (∀ place, s.tree.node? place = (site.treeAfter commands).node? place) ∧
      ∀ i : Fin commands.length, ∃ o, (site.buildAll commands)[i.val]? = some o ∧
        site.EndsAlike (commands.get i)
          (site.finish (commands.get i) s.tree (s.stage i).error?) o

namespace Independent

variable [DecidableEq ι] {commands : ι → List String} {s s' : Underway ι}

/-- Whatever has been done of independent builds is consistent. -/
theorem consistent (h : site.Independent commands) (hs : site.Reaches commands s) :
    Underway.Consistent site.tree site.workingDirectory (site.parcels commands) s :=
  (Underway.consistent_outset _ _ _).runs h.apart_parcels hs

/-- **When all have ended** the tree is the same, however they came to it. -/
theorem node?_eq (h : site.Independent commands) (hs : site.Reaches commands s)
    (hended : s.HasEnded (site.parcels commands)) (hs' : site.Reaches commands s')
    (hended' : s'.HasEnded (site.parcels commands)) (place : Location) :
    s.tree.node? place = s'.tree.node? place :=
  (h.consistent hs).node?_eq hended (h.consistent hs') hended' place

/-- **A build ends alike**, however its delivery came to its end. -/
theorem endsAlike (h : site.Independent commands) (hs : site.Reaches commands s)
    (hs' : site.Reaches commands s') {i : ι}
    (hstage : ∀ x, site.parcels commands i = some x → s.stage i = .ended error)
    (hstage' : ∀ x, site.parcels commands i = some x → s'.stage i = .ended error') :
    site.EndsAlike (commands i) (site.finish (commands i) t error)
      (site.finish (commands i) u error') :=
  endsAlike_finish fun x hx =>
    ⟨(h.consistent hs).canEnd hx (hstage x hx), (h.consistent hs').canEnd hx (hstage' x hx)⟩

end Independent

/-- **Independent builds commute.**  In whatever order they are built, each does the same, and the
tree is the same in the end; and so it is if they go on at one time. -/
theorem builds_commute {commands : List (List String)} (h : site.Independent commands.get) :
    site.Commute commands where
  alike order order' hnodup hnodup' k k' i hk hk' := by
    obtain ⟨t, error, ho, hstage⟩ :=
      exists_buildAll_eq site commands.get hnodup hk (.outset site.tree)
    obtain ⟨u, error', ho', hstage'⟩ :=
      exists_buildAll_eq site commands.get hnodup' hk' (.outset site.tree)
    have hends : site.EndsAlike (commands.get i) (site.finish (commands.get i) t error)
        (site.finish (commands.get i) u error') :=
      h.endsAlike (site.reaches_inTurn commands.get hnodup)
        (site.reaches_inTurn commands.get hnodup') hstage hstage'
    exact ⟨_, _, ho, ho', hends, hends.notices_eq⟩
  tree_eq order order' hperm hperm' place := by
    have hnodup := hperm.nodup_iff.2 (List.nodup_finRange _)
    have hnodup' := hperm'.nodup_iff.2 (List.nodup_finRange _)
    have htree : site.treeAfter (order.map commands.get) = _ :=
      treeAfter_eq site commands.get order (.outset site.tree)
    have htree' : site.treeAfter (order'.map commands.get) = _ :=
      treeAfter_eq site commands.get order' (.outset site.tree)
    have hended := site.hasEnded_inTurn commands.get hnodup
      (fun i => hperm.mem_iff.2 (List.mem_finRange i)) (.outset site.tree)
    have hended' := site.hasEnded_inTurn commands.get hnodup'
      (fun i => hperm'.mem_iff.2 (List.mem_finRange i)) (.outset site.tree)
    rw [htree, htree']
    exact h.node?_eq (site.reaches_inTurn commands.get hnodup) hended
      (site.reaches_inTurn commands.get hnodup') hended' place
  ends := Underway.wellFounded_step site.workingDirectory (site.parcels commands.get)
  together s hs hstop := by
    have hended := Underway.hasEnded_of_forall_not_step hstop
    -- the order of the commands is one of the orders
    have hall : (List.finRange commands.length).map commands.get = commands :=
      List.map_get_finRange commands
    have hnodup := List.nodup_finRange commands.length
    have hturns := site.reaches_inTurn commands.get hnodup
    constructor
    · intro place
      have htree : site.treeAfter ((List.finRange commands.length).map commands.get) = _ :=
        treeAfter_eq site commands.get _ (.outset site.tree)
      rw [hall] at htree
      rw [htree]
      exact h.node?_eq hs hended hturns
        (site.hasEnded_inTurn commands.get hnodup List.mem_finRange _) place
    · intro i
      have hi : (List.finRange commands.length)[i.val]? = some i := by simp
      obtain ⟨t, error, ho, hstage⟩ :=
        exists_buildAll_eq site commands.get hnodup hi (.outset site.tree)
      rw [hall] at ho
      refine ⟨_, ho, h.endsAlike hs hturns (fun x hx => ?_) hstage⟩
      obtain ⟨error', herror'⟩ := hended i x hx
      rw [herror']
      rfl

/-! ### Two commands -/

/-- The tokens of a command that selects nothing. -/
def emptyTokens (path : String) : List String :=
  ["include=", "-o", path]

/-- Its draft, which has the empty source. -/
def emptyDraft (path : String) : Draft where
  command := { included := some [], outputPath := some path, tokens := ["include=\"\""] }
  selection := { names := [], requested := [] }
  source := ""
  diagnostics := []
  reducerCalls := []
  launched := []

theorem ofTokens_empty (hpath : Term.isPath path = true) :
    Command.ofTokens (emptyTokens path) = .ok (emptyDraft path).command := by
  have hfirst : Term.readOne "include=" = .ok (.names .included "") := by decide
  have hterms : Term.readAll (emptyTokens path) =
      .ok [.names .included "", .output path] := by
    simp [emptyTokens, Term.readAll, hfirst, hpath, Except.map]
  rw [Command.ofTokens, hterms]
  rfl

theorem destination_empty (hpath : Term.isPath path = true) :
    (emptyDraft path).command.destination = some path := by
  have hempty : path.isEmpty = false := by
    rw [Term.isPath, Bool.and_eq_true, Bool.not_eq_true'] at hpath
    exact hpath.1
  show (if path.isEmpty then some _ else some path) = some path
  rw [hempty, if_neg Bool.false_ne_true]

/-- It selects nothing from any registry. -/
theorem select_empty (r : Registry) :
    r.select (emptyDraft path).command = .ok { names := [], requested := [] } := by
  have hdropped : r.droppedValues (emptyDraft path).command = [] := rfl
  have hrequested : r.requested (emptyDraft path).command = [] := by
    have hbase : r.baseValues (emptyDraft path).command = [] := rfl
    rw [Registry.requested, List.filter_eq_nil_iff]
    intro name _
    rw [hbase]
    simp [emptyDraft, Command.hasSource, Registry.expand]
  have hclose : r.close [] = ∅ := by
    rw [Registry.close, Graph.reachable_nil]
    rfl
  have harrange : r.arrange (∅ : NameSet).toList = [] := by
    rw [Registry.arrange, List.filter_eq_nil_iff]
    exact fun name _ => Bool.false_ne_true
  rw [Registry.select, hdropped, hrequested]
  simp only [hclose, harrange]
  rfl

theorem draft_empty (site : Site) (hpath : Term.isPath path = true) :
    site.draft (emptyTokens path) = .ok (emptyDraft path) := by
  have hread : site.readCommand (emptyTokens path) =
      .ok ((emptyDraft path).command, (emptyDraft path).selection) :=
    readCommand_eq_ok_iff.2 ⟨ofTokens_empty hpath, select_empty site.registry⟩
  rw [draft, hread]
  rfl

/-- The empty source is delivered as it is. -/
theorem build_empty (t : FileTree) (hpath : Term.isPath path = true) :
    ({ sampleSite with tree := t } : Site).build (emptyTokens path) =
      sampleSite.finishDelivery (emptyDraft path) path (t.deliver [] path "").1
        (t.deliver [] path "").2 := by
  have hdraft := draft_empty sampleSite hpath
  have hx : sampleSite.parcel? (emptyTokens path) = some { path, text := "" } := by
    refine parcel?_eq_some_iff.2 ⟨_, hdraft, destination_empty hpath, ?_⟩
    show "" = if _ then "" else ""
    rw [ite_self]
  rw [build_of_some { sampleSite with tree := t } hx, finish_withTree,
    finish_of_some hdraft (destination_empty hpath)]
  rfl

theorem isClosed_empty : ({} : FileTree).IsClosed := by
  intro place part hnode
  have hnone : ({} : FileTree).node? (place ++ [part]) = none := by
    have hempty : (place ++ [part]).isEmpty = false := by simp
    rw [node?, hempty]
    rfl
  exact absurd hnone hnode

/-- **Such commands are independent** in an empty tree if they go to files below the working
directory, none of which is to be a directory for another. -/
theorem independent_of_empty {ι : Type} {commands : ι → List String} (parts : ι → List String)
    (hempty : ∀ i, ∃ path, commands i = emptyTokens path ∧ Term.isPath path = true ∧
      Path.ofText path = { start := .here, parts := parts i })
    (hup : ∀ i, ".." ∉ parts i) (hfew : ∀ i, (parts i).length ≤ maxMissingLevels)
    (hapart : ∀ i j, i ≠ j → ¬ parts i <+: parts j) : sampleSite.Independent commands := by
  have hdestination : ∀ i path, destination? (commands i) = some path →
      Path.ofText path = { start := .here, parts := parts i } := by
    intro i path hpath
    obtain ⟨own, htokens, hown, hparts⟩ := hempty i
    rw [htokens, destination?, ofTokens_empty hown] at hpath
    obtain rfl := Option.some.inj ((destination_empty hown).symm.trans hpath)
    exact hparts
  constructor
  · exact isClosed_empty
  · rfl
  · intro i path hpath
    rw [hdestination i path hpath]
    exact ⟨rfl, hup i⟩
  · intro i path hpath
    rw [hdestination i path hpath]
    exact isTooDeep_of_length_le (hfew i)
  · intro i j path other hpath hother hne
    rw [hdestination i path hpath, hdestination j other hother]
    exact hapart i j hne

/-- Two files in a directory that is not there yet. -/
theorem siblings_commute :
    sampleSite.Independent [emptyTokens "out/a.js", emptyTokens "out/b.js"].get ∧
      sampleSite.Commute [emptyTokens "out/a.js", emptyTokens "out/b.js"] := by
  have hfirst : Path.ofText "out/a.js" = { start := .here, parts := ["out", "a.js"] } := by
    decide +kernel
  have hsecond : Path.ofText "out/b.js" = { start := .here, parts := ["out", "b.js"] } := by
    decide +kernel
  have h : sampleSite.Independent [emptyTokens "out/a.js", emptyTokens "out/b.js"].get := by
    refine independent_of_empty [["out", "a.js"], ["out", "b.js"]].get ?_ ?_ ?_ ?_
    · exact Fin.forall_fin_two.2
        ⟨⟨_, rfl, by decide +kernel, hfirst⟩, ⟨_, rfl, by decide +kernel, hsecond⟩⟩
    all_goals decide +kernel
  exact ⟨h, builds_commute h⟩

/-! ### A name that is too long -/

/-- The characters of a name that is too long. -/
def longChars : List Char :=
  List.replicate 256 'n'

/-- The name. -/
def longName : String :=
  String.ofList longChars

/-- A path through a directory of that name. -/
def longText (more : List Char) : String :=
  String.ofList ('a' :: '/' :: (longChars ++ more))

theorem toList_longText (more : List Char) :
    (longText more).toList = 'a' :: '/' :: (longChars ++ more) :=
  String.toList_ofList

/-- The path of a file two directories further on. -/
def longPath : String :=
  longText ['/', 'c', '/', 'x', '.', 'j', 's']

theorem isPath_longPath : Term.isPath longPath = true := by
  have hbegins : Text.beginsWith longPath "-" = false := by
    rw [Text.beginsWith, longPath, toList_longText]
    decide
  have hempty : longPath.isEmpty = false := by
    simp [longPath, longText]
  rw [Term.isPath, hbegins, hempty]
  rfl

theorem ofText_longPath :
    Path.ofText longPath = { start := .here, parts := ["a", longName, "c", "x.js"] } := by
  rw [Path.ofText, longPath, toList_longText]
  decide +kernel

/-- The report of a build that fails at the long name. -/
def longReport (directory : String) : Report where
  destination := some longPath
  diagnostics :=
    [{ kind := deliveryKind
       message := "Cannot write " ++ longPath ++ ": " ++
        (FileError.mk .nameTooLong directory).message }]

theorem longReport_ne : longReport (longText []) ≠ longReport (longText ['/', 'c']) := by
  intro heq
  have hquoted : Text.quoted (longText []) = Text.quoted (longText ['/', 'c']) := by
    simpa [longReport, FileError.message, String.append_right_inj] using heq
  rw [Text.quoted, Text.quoted, toList_longText, toList_longText] at hquoted
  have hchars := congrArg String.toList hquoted
  rw [String.toList_ofList, String.toList_ofList] at hchars
  revert hchars
  decide +kernel

/-- The end of a build that fails to make its directories at the long name. -/
theorem result_of_makeParent {t u : FileTree} {directory : String}
    (hmake : t.makeParent [] { start := .here, parts := ["a", longName, "c", "x.js"] } =
      (u, some (.mk .nameTooLong directory))) :
    (({ sampleSite with tree := t } : Site).build (emptyTokens longPath)).result =
      .ok (longReport directory) := by
  have hnull : (Path.mk .here ["a", longName, "c"]).hasNull = false := by
    rw [Path.hasNull]
    simp only [longName, List.any_cons, String.toList_ofList]
    decide
  have hdeep : t.isTooDeep [] { start := .here, parts := ["a", longName, "c", "x.js"] } = false :=
    isTooDeep_of_length_le (by decide)
  have hdeliver : t.deliver [] longPath "" =
      (u, some (.file (.mk .nameTooLong directory))) := by
    unfold FileTree.deliver
    simp only [ofText_longPath, hdeep, hmake]
    rw [if_neg (by rw [Path.parent]; exact ne_true_of_eq_false hnull), if_neg Bool.false_ne_true]
  rw [build_empty t isPath_longPath, hdeliver]
  rfl

/-- **The error at a long name tells the order of builds.**  Built first, a command fails when it
makes the directory of that name; built after one that has made the directory above, it fails when
it tries the one below. -/
theorem long_name_tells_order :
    Registry.ofEntries Registry.sampleEntries Registry.sampleHeader = .ok sampleSite.registry ∧
      sampleSite.Independent [emptyTokens longPath, emptyTokens "a/y.js"].get ∧
      ∃ o o',
        (sampleSite.buildAll [emptyTokens longPath, emptyTokens "a/y.js"])[0]? = some o ∧
        (sampleSite.buildAll [emptyTokens "a/y.js", emptyTokens longPath])[1]? = some o' ∧
        o.result = .ok (longReport (longText [])) ∧
        o'.result = .ok (longReport (longText ['/', 'c'])) ∧ o.result ≠ o'.result := by
  have hother : Path.ofText "a/y.js" = { start := .here, parts := ["a", "y.js"] } := by
    decide +kernel
  have hindependent : sampleSite.Independent [emptyTokens longPath, emptyTokens "a/y.js"].get := by
    refine independent_of_empty [["a", longName, "c", "x.js"], ["a", "y.js"]].get ?_ ?_ ?_ ?_
    · exact Fin.forall_fin_two.2
        ⟨⟨_, rfl, isPath_longPath, ofText_longPath⟩, ⟨_, rfl, by decide +kernel, hother⟩⟩
    all_goals decide +kernel
  have hfirst : (sampleSite.build (emptyTokens longPath)).result =
      .ok (longReport (longText [])) := by
    have hmake : ({} : FileTree).makeParent []
        { start := .here, parts := ["a", longName, "c", "x.js"] } =
          ({ nodes := [(["a"], .directory)] }, some (.mk .nameTooLong (longText []))) := by
      decide +kernel
    exact result_of_makeParent hmake
  have hsecond : (({ sampleSite with
      tree := (sampleSite.build (emptyTokens "a/y.js")).tree } : Site).build
        (emptyTokens longPath)).result = .ok (longReport (longText ['/', 'c'])) := by
    have hbefore : sampleSite.build (emptyTokens "a/y.js") = _ :=
      build_empty {} (by decide +kernel)
    rw [hbefore, tree_finishDelivery]
    have hmake : (({} : FileTree).deliver [] "a/y.js" "").1.makeParent []
        { start := .here, parts := ["a", longName, "c", "x.js"] } =
          ((({} : FileTree).deliver [] "a/y.js" "").1,
            some (.mk .nameTooLong (longText ['/', 'c']))) := by
      decide +kernel
    exact result_of_makeParent hmake
  refine ⟨Registry.ofEntries_sampleEntries, hindependent, ?_⟩
  rw [buildAll_pair, buildAll_pair]
  refine ⟨_, _, rfl, rfl, hfirst, hsecond, ?_⟩
  rw [hfirst, hsecond]
  exact fun heq => longReport_ne (Except.ok.inj heq)

end Site

end CustomBuild
