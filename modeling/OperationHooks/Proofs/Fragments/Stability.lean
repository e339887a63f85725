import OperationHooks.Proofs.Fragments.Dependencies

/-!
# Ordering what is in order

Where every fragment stands behind the fragments that it spreads, itself apart, the order of
constants is the order of the fragments. Without cycles such an order is what ordering makes, so
ordering once more changes nothing.
-/

namespace OperationHooks

namespace FragmentLibrary

variable {lib : FragmentLibrary}

/-! ### Steps -/

lemma arrange_nil (taken down : List String) : lib.arrange taken down [] = down := by
  rw [arrange]

lemma arrange_put (taken down : List String) (n : String) (rest : List Step) :
    lib.arrange taken down (.put n :: rest) = lib.arrange taken (down ++ [n]) rest := by
  rw [arrange]

lemma arrange_take {taken : List String} {n : String} (down : List String) (rest : List Step)
    (known : n ∈ lib.names) (fresh : n ∉ taken) :
    lib.arrange taken down (.take n :: rest) =
      lib.arrange (n :: taken) down ((lib.dependencies n).map .take ++ .put n :: rest) := by
  rw [arrange, dif_pos ⟨known, fresh⟩]

lemma arrange_pass {taken : List String} {n : String} (down : List String) (rest : List Step)
    (passed : n ∈ lib.names → n ∈ taken) :
    lib.arrange taken down (.take n :: rest) = lib.arrange taken down rest := by
  rw [arrange, dif_neg fun h => h.2 (passed h.1)]

/-- Names that are not known or were taken up before are passed over. -/
lemma arrange_passes {taken ns : List String} (down : List String) (rest : List Step)
    (passed : ∀ n ∈ ns, n ∈ lib.names → n ∈ taken) :
    lib.arrange taken down (ns.map .take ++ rest) = lib.arrange taken down rest := by
  induction ns with
  | nil => rfl
  | cons n ns ih =>
    rw [List.map_cons, List.cons_append, arrange_pass _ _ (passed n List.mem_cons_self),
      ih fun m hm => passed m (List.mem_cons_of_mem _ hm)]

/-- A name whose known dependencies were taken up before is put down at once. -/
lemma arrange_ready {taken : List String} {n : String} (down : List String) (rest : List Step)
    (known : n ∈ lib.names) (fresh : n ∉ taken)
    (ready : ∀ d ∈ lib.dependencies n, d ∈ lib.names → d ∈ n :: taken) :
    lib.arrange taken down (.take n :: rest) = lib.arrange (n :: taken) (down ++ [n]) rest := by
  rw [arrange_take _ _ known fresh, arrange_passes _ _ ready, arrange_put]

/-! ### Fragments in order -/

/-- Every known name stands behind the known names that it spreads, itself apart. -/
def InOrder (lib : FragmentLibrary) : Prop :=
  ∀ n ∈ lib.names, ∀ d ∈ lib.dependencies n, d ∈ lib.names → d ≠ n → [d, n].Sublist lib.names

lemma nodup_names (lib : FragmentLibrary) : lib.names.Nodup := nodup_eraseDups _

/-- With the first names down, the steps for the others put these down in their order. -/
lemma InOrder.arrange_names (h : lib.InOrder) {before rest : List String}
    (split : lib.names = before ++ rest) :
    lib.arrange before.reverse before (rest.map .take) = lib.names := by
  induction rest generalizing before with
  | nil => rw [List.map_nil, arrange_nil, split, List.append_nil]
  | cons n rest ih =>
    have split' : lib.names = (before ++ [n]) ++ rest := by simp [split]
    have unique := nodup_names lib
    have known : n ∈ lib.names := by simp [split]
    have fresh : n ∉ before.reverse := by
      rw [split, List.nodup_append] at unique
      exact fun hn => unique.2.2 n (List.mem_reverse.mp hn) n List.mem_cons_self rfl
    have ready : ∀ d ∈ lib.dependencies n, d ∈ lib.names → d ∈ n :: before.reverse := by
      intro d hd known'
      by_cases self : d = n
      · exact self ▸ List.mem_cons_self
      · have front : d ∈ before ++ [n] :=
          mem_of_before unique (h n known d hd known' self) ⟨rest, split'.symm⟩ (by simp)
        simpa [or_comm] using front
    have rest' := ih split'
    rw [List.reverse_append, List.reverse_singleton, List.singleton_append] at rest'
    rw [List.map_cons, arrange_ready _ _ known fresh ready, rest']

lemma InOrder.dependencyOrder_eq (h : lib.InOrder) : lib.dependencyOrder = lib.names :=
  h.arrange_names (List.nil_append _).symm

/-! ### Ordering once more -/

/-- The fragments in the order of constants, loaded in this order. -/
def reordered (lib : FragmentLibrary) : FragmentLibrary := ⟨lib.fragmentsInOrder⟩

lemma map_name_fragmentsInOrder (lib : FragmentLibrary) :
    lib.fragmentsInOrder.map (·.name) = lib.dependencyOrder :=
  map_name_filterMap_find? fun _ => mem_dependencyOrder.mp

lemma names_reordered (lib : FragmentLibrary) : lib.reordered.names = lib.dependencyOrder := by
  rw [names, reordered, map_name_fragmentsInOrder, eraseDups_of_nodup (nodup_dependencyOrder lib)]

/-- A fragment among those in order is the one that its name means. -/
lemma find?_name_of_mem {f : LoadedFragment} (hf : f ∈ lib.fragmentsInOrder) :
    lib.find? f.name = some f := by
  obtain ⟨n, -, hn⟩ := List.mem_filterMap.mp hf
  have name : f.name = n := by simpa using List.find?_some hn
  rw [name, hn]

lemma find?_reordered {n : String} (known : n ∈ lib.names) :
    lib.reordered.find? n = lib.find? n := by
  obtain ⟨f, hf, name⟩ := exists_find? known
  have here : n ∈ lib.reordered.names := by rwa [names_reordered, mem_dependencyOrder]
  obtain ⟨g, hg, name'⟩ := exists_find? here
  have among : g ∈ lib.fragmentsInOrder := List.mem_reverse.mp (List.mem_of_find?_eq_some hg)
  rw [hg, ← find?_name_of_mem among, name']

/-- Where the fragment that a name means has a definition, its spreads are those of the name. -/
lemma dependencies_of_find? {n : String} {f : LoadedFragment} (hf : lib.find? n = some f)
    (defined : f.definition?.isSome) :
    lib.dependencies n = (f.definition?.map Fragment.spreads).getD [] := by
  obtain ⟨name, before, after, split, others⟩ := List.find?_eq_some_iff_append.mp hf
  have found : lib.loaded.reverse.find? (fun f => f.name == n && f.definition?.isSome) =
      some f := by
    refine List.find?_eq_some_iff_append.mpr ⟨?_, before, after, split, fun g hg => ?_⟩
    · rw [name, defined]
      rfl
    · rw [Bool.not_and, others g hg, Bool.true_or]
  rw [dependencies, found]

/-- A name spreads nothing that it did not spread before. -/
lemma dependencies_reordered (lib : FragmentLibrary) (n : String) :
    lib.reordered.dependencies n ⊆ lib.dependencies n := by
  rw [dependencies]
  split
  · next f hf =>
    have kept := List.find?_some hf
    rw [Bool.and_eq_true, beq_iff_eq] at kept
    obtain ⟨rfl, defined⟩ := kept
    have among : f ∈ lib.fragmentsInOrder := List.mem_reverse.mp (List.mem_of_find?_eq_some hf)
    rw [dependencies_of_find? (find?_name_of_mem among) defined]
    exact List.Subset.refl _
  · exact List.nil_subset _

lemma Acyclic.inOrder_reordered (acyclic : lib.Acyclic) : lib.reordered.InOrder := by
  intro n hn d hd known _
  rw [names_reordered] at hn known ⊢
  exact before_of_acyclic acyclic (mem_dependencyOrder.mp hn) (dependencies_reordered lib n hd)
    (mem_dependencyOrder.mp known)

lemma Acyclic.fragmentsInOrder_reordered (acyclic : lib.Acyclic) :
    lib.reordered.fragmentsInOrder = lib.fragmentsInOrder := by
  rw [fragmentsInOrder, acyclic.inOrder_reordered.dependencyOrder_eq, names_reordered,
    fragmentsInOrder]
  exact List.filterMap_congr fun n hn => find?_reordered (mem_dependencyOrder.mp hn)

/-- What goes down with every spread has no cycles. -/
lemma acyclic_of_lt (rank : String → Nat)
    (down : ∀ n ∈ lib.names, ∀ d ∈ lib.dependencies n, d ∈ lib.names → rank d < rank n) :
    lib.Acyclic := by
  have below {m n : String} (hm : m ∈ lib.names) (h : lib.LeadsTo m n) : rank n < rank m := by
    induction h with
    | spread hn known => exact down m hm _ hn known
    | step h hn known ih => exact Nat.lt_trans (down _ (Reaches.known h) _ hn known) ih
  exact fun n hn back => Nat.lt_irrefl _ (below hn back)

end FragmentLibrary

/-- Where the fragments that a fragment spreads, itself apart, are loaded before it, fragments are
put in the order in which they are loaded. On any fragments without cycles ordering is idempotent:
what has been put in order, loaded again in this order, stays as it is, and so does the text of the
fragments. -/
theorem ordering_idempotent (c : Compiler) :
    (c.library.InOrder → c.library.fragmentsInOrder = c.library.fragments) ∧
      (c.library.Acyclic →
        c.library.reordered.fragmentsInOrder = c.library.fragmentsInOrder ∧
          GeneratedModule.fragmentsText
              ({ c with library := c.library.reordered } : Compiler).fragmentConstants =
            GeneratedModule.fragmentsText c.fragmentConstants) := by
  refine ⟨fun h => ?_, fun acyclic => ⟨acyclic.fragmentsInOrder_reordered, ?_⟩⟩
  · rw [FragmentLibrary.fragmentsInOrder, h.dependencyOrder_eq, FragmentLibrary.fragments]
  · have same : c.library.reordered.definitionsInOrder = c.library.definitionsInOrder :=
      congrArg (List.filter _) acyclic.fragmentsInOrder_reordered
    rw [Compiler.fragmentConstants, Compiler.fragmentConstants, same]
    rfl

/-- Of a chain that is loaded the wrong way round the order is turned, and then it stays; a fragment
that spreads itself stays where it is. -/
theorem ordering_idempotent_chain :
    let loaded (name : Name) (spread : List Name) : LoadedFragment :=
      .ofFragment ⟨none, name, ⟨'T', [], rfl, rfl⟩, [], spread.map (.spread · [])⟩
    let a : Name := ⟨'A', [], rfl, rfl⟩
    let b : Name := ⟨'B', [], rfl, rfl⟩
    let chain : FragmentLibrary := ⟨[loaded a [b], loaded b []]⟩
    let own : FragmentLibrary := ⟨[loaded b [b], loaded a [b]]⟩
    chain.Acyclic ∧ chain.reordered.fragmentsInOrder = chain.fragmentsInOrder ∧
      own.InOrder ∧ own.fragmentsInOrder = own.loaded := by
  intro loaded a b chain own
  have acyclic : chain.Acyclic := by
    refine FragmentLibrary.acyclic_of_lt (fun n => if n = "A" then 1 else 0) ?_
    decide
  have inOrder : own.InOrder := by
    change ∀ n ∈ own.names, ∀ d ∈ own.dependencies n, d ∈ own.names → d ≠ n →
      [d, n].Sublist own.names
    decide
  exact ⟨acyclic, ((ordering_idempotent ⟨.default, chain, none⟩).2 acyclic).1, inOrder,
    (ordering_idempotent ⟨.default, own, none⟩).1 inOrder⟩

/-- On a cycle a second ordering turns the first one around. -/
example :
    let loaded (name : Name) (spread : Name) : LoadedFragment :=
      .ofFragment ⟨none, name, ⟨'T', [], rfl, rfl⟩, [], [.spread spread []]⟩
    let a : Name := ⟨'A', [], rfl, rfl⟩
    let b : Name := ⟨'B', [], rfl, rfl⟩
    let cycle : FragmentLibrary := ⟨[loaded a b, loaded b a]⟩
    cycle.dependencyOrder = ["B", "A"] ∧ cycle.reordered.dependencyOrder = ["A", "B"] := by
  cbv

end OperationHooks
