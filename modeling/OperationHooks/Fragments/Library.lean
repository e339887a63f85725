import OperationHooks.GraphQL.Spreads

/-!
# The library of fragments

The fragments a run knows, by name. Where a name is loaded twice the last one counts, at the place
of the first; what a fragment spreads is taken from the last of its name that has a definition.

Two orders are computed: the closure of given spreads (`transitive`), which is what has to be sent
with an operation, and all fragments with dependencies first (`dependencyOrder`), which is how
constants are emitted. Both keep a list of things to do and end because a name is taken up once.
-/

namespace OperationHooks

/-- A fragment as it was loaded; one from elsewhere comes without its definition. -/
structure LoadedFragment where
  name : String
  onType : String
  definition? : Option Fragment
  isExternal : Bool

/-- A fragment that a document defines. -/
def LoadedFragment.ofFragment (f : Fragment) : LoadedFragment where
  name := f.name.text
  onType := f.on.text
  definition? := some f
  isExternal := false

/-- The fragments a run knows, in the order in which they were loaded. -/
structure FragmentLibrary where
  loaded : List LoadedFragment

namespace FragmentLibrary

/-! ### Looking up -/

/-- The names of the known fragments, by first occurrence. -/
def names (lib : FragmentLibrary) : List String := (lib.loaded.map (·.name)).eraseDups

/-- The fragment of a name: the one loaded last. -/
def find? (lib : FragmentLibrary) (name : String) : Option LoadedFragment :=
  lib.loaded.reverse.find? (·.name == name)

/-- What the fragment of a name spreads. -/
def dependencies (lib : FragmentLibrary) (name : String) : List String :=
  match lib.loaded.reverse.find? (fun f => f.name == name && f.definition?.isSome) with
  | some f => (f.definition?.map Fragment.spreads).getD []
  | none => []

/-- How many known names are not among given ones. -/
def remaining (lib : FragmentLibrary) (done : List String) : Nat :=
  (lib.names.filter (fun n => !done.contains n)).length

theorem length_filter_lt {p q : String → Bool} {xs : List String}
    (le : ∀ x, p x = true → q x = true) {x : String} (mem : x ∈ xs) (hq : q x = true)
    (hp : p x = false) : (xs.filter p).length < (xs.filter q).length := by
  induction xs with
  | nil => simp at mem
  | cons y ys ih =>
    have le' : (ys.filter p).length ≤ (ys.filter q).length := by
      rw [← List.countP_eq_length_filter, ← List.countP_eq_length_filter]
      exact List.countP_mono_left (fun x _ h => le x h)
    rcases List.mem_cons.1 mem with rfl | h
    · simp only [List.filter_cons, hq, hp, if_true]
      simp only [Bool.false_eq_true, if_false, List.length_cons]
      omega
    · have := ih h
      simp only [List.filter_cons]
      cases hpy : p y
      · cases hqy : q y <;> simp <;> omega
      · simp [le y hpy]
        omega

/-- A known name that is done for the first time is one less to do. -/
theorem remaining_lt {lib : FragmentLibrary} {done done' : List String} {name : String}
    (known : name ∈ lib.names) (fresh : name ∉ done) (now : name ∈ done')
    (sub : ∀ n ∈ done, n ∈ done') : lib.remaining done' < lib.remaining done := by
  refine length_filter_lt (fun n h => ?_) known ?_ ?_
  · simp only [Bool.not_eq_true', List.contains_eq_mem, decide_eq_false_iff_not] at *
    exact fun h' => h (sub n h')
  · simp [fresh]
  · simp [now]

/-! ### What has to be sent -/

/-- The names reached so far, with those that the pending ones reach, breadth first. -/
def close (lib : FragmentLibrary) (reached pending : List String) : List String :=
  match pending with
  | [] => reached
  | n :: rest =>
    if _h : n ∈ lib.names ∧ n ∉ reached then
      close lib (reached ++ [n]) (rest ++ lib.dependencies n)
    else close lib reached rest
termination_by (lib.remaining reached, pending.length)
decreasing_by
  · exact Prod.Lex.left _ _ (remaining_lt _h.1 _h.2 (by simp) (fun m hm => by simp [hm]))
  · exact Prod.Lex.right _ (by simp)

/-- The known fragments that spreads reach, by first use. -/
def transitive (lib : FragmentLibrary) (spreads : List String) : List String :=
  close lib [] spreads

/-! ### The order of constants -/

/-- What is to be done next: take up a name, or put down one whose dependencies are all down. -/
inductive Step where
  | take (name : String)
  | put (name : String)

/-- The names put down so far, with those that the remaining steps put down. -/
def arrange (lib : FragmentLibrary) (taken down : List String) (steps : List Step) :
    List String :=
  match steps with
  | [] => down
  | .put n :: rest => arrange lib taken (down ++ [n]) rest
  | .take n :: rest =>
    if _h : n ∈ lib.names ∧ n ∉ taken then
      arrange lib (n :: taken) down ((lib.dependencies n).map .take ++ .put n :: rest)
    else arrange lib taken down rest
termination_by (lib.remaining taken, steps.length)
decreasing_by
  · exact Prod.Lex.right _ (by simp)
  · exact Prod.Lex.left _ _ (remaining_lt _h.1 _h.2 (by simp) (fun m hm => by simp [hm]))
  · exact Prod.Lex.right _ (by simp)

/-- The names of all known fragments, dependencies first where there is no cycle. -/
def dependencyOrder (lib : FragmentLibrary) : List String :=
  arrange lib [] [] (lib.names.map .take)

/-- The definitions to emit constants for, dependencies first. -/
def definitionsInOrder (lib : FragmentLibrary) : List LoadedFragment :=
  (lib.dependencyOrder.filterMap lib.find?).filter
    (fun f => !f.isExternal && f.definition?.isSome)

end FragmentLibrary

end OperationHooks
