import OperationHooks.GeneratedModule
import OperationHooks.Proofs.FirstOccurrences
import OperationHooks.Proofs.Fragments.Order
import OperationHooks.Proofs.Fragments.Reach

/-!
# Dependencies first

In the order of constants a fragment comes behind each known fragment that it spreads, unless that
one leads back to it. The reason is what the stack of steps looks like: what is going to be put
down leads to everything that is in front of it, and by the time it is put down all that it spreads
has been taken up.
-/

namespace OperationHooks

namespace FragmentLibrary

variable {lib : FragmentLibrary}

/-! ### What leads where -/

/-- There is a chain of known fragments from what the first name spreads to the second. -/
def LeadsTo (lib : FragmentLibrary) (m n : String) : Prop := lib.Reaches (lib.dependencies m) n

/-- No fragment leads back to itself. -/
def Acyclic (lib : FragmentLibrary) : Prop := ∀ n ∈ lib.names, ¬lib.LeadsTo n n

lemma leadsTo_of_mem {m n : String} (hn : n ∈ lib.dependencies m) (known : n ∈ lib.names) :
    lib.LeadsTo m n :=
  .spread hn known

lemma LeadsTo.step {m n k : String} (h : lib.LeadsTo m n) (hk : k ∈ lib.dependencies n)
    (known : k ∈ lib.names) : lib.LeadsTo m k :=
  Reaches.step h hk known

lemma LeadsTo.behind {m n k : String} (h : lib.LeadsTo n k) (hn : n ∈ lib.dependencies m)
    (known : n ∈ lib.names) : lib.LeadsTo m k := by
  induction h with
  | spread hk known' => exact (leadsTo_of_mem hn known).step hk known'
  | step _ hk known' ih => exact LeadsTo.step ih hk known'

/-- Every known name comes behind the known names that it spreads, unless they lead back to it. -/
def Settled (lib : FragmentLibrary) (order : List String) : Prop :=
  ∀ n ∈ order, n ∈ lib.names → ∀ d ∈ lib.dependencies n, d ∈ lib.names →
    lib.LeadsTo d n ∨ [d, n].Sublist order

lemma Settled.concat {down : List String} (h : lib.Settled down) {n : String}
    (hn : n ∈ lib.names → ∀ d ∈ lib.dependencies n, d ∈ lib.names → lib.LeadsTo d n ∨ d ∈ down) :
    lib.Settled (down ++ [n]) := by
  intro m hm known d hd known'
  rcases List.mem_append.mp hm with hm | hm
  · exact (h m hm known d hd known').imp_right fun s => s.trans (List.sublist_append_left _ _)
  · rw [List.mem_singleton] at hm
    subst hm
    refine (hn known d hd known').imp_right fun hd => ?_
    exact (List.singleton_sublist.mpr hd).append (List.Sublist.refl [m])

/-! ### What the steps look like -/

/-- The name that a step is about. -/
def Step.name : Step → String
  | .take n => n
  | .put n => n

/-- By the time a name is put down, the known names that it spreads have been met. -/
def Ready (lib : FragmentLibrary) (met : List String) : List Step → Prop
  | [] => True
  | .take n :: rest => lib.Ready (n :: met) rest
  | .put n :: rest =>
    (∀ d ∈ lib.dependencies n, d ∈ lib.names → d ∈ met) ∧ lib.Ready met rest

lemma Ready.mono {met met' : List String} {steps : List Step} (h : lib.Ready met steps)
    (sub : ∀ d ∈ met, d ∈ lib.names → d ∈ met') : lib.Ready met' steps := by
  induction steps generalizing met met' with
  | nil => trivial
  | cons s rest ih =>
    cases s with
    | take n =>
      refine ih h fun d hd known => ?_
      rcases List.mem_cons.mp hd with rfl | hd
      · exact List.mem_cons_self
      · exact List.mem_cons_of_mem _ (sub d hd known)
    | put n => exact ⟨fun d hd known => sub d (h.1 d hd known) known, ih h.2 sub⟩

lemma ready_takes {met ns : List String} {steps : List Step} :
    lib.Ready met (ns.map .take ++ steps) ↔ lib.Ready (ns.reverse ++ met) steps := by
  induction ns generalizing met with
  | nil => rfl
  | cons n ns ih =>
    rw [List.map_cons, List.cons_append, Ready, ih, List.reverse_cons, List.append_assoc]
    rfl

/-- One step stands in front of another: if the other one puts a name down, that name leads to
the name of this one. -/
def InFront (lib : FragmentLibrary) (s s' : Step) : Prop :=
  ∀ m, s' = .put m → s.name ∈ lib.names → lib.LeadsTo m s.name

/-- What holds of the names taken up, the names put down and the remaining steps. -/
structure Underway (lib : FragmentLibrary) (taken down : List String) (steps : List Step) :
    Prop where
  ready : lib.Ready taken steps
  inFront : steps.Pairwise lib.InFront
  settled : lib.Settled down
  accounted : taken ⊆ down ++ puts steps

namespace Underway

variable {taken down : List String} {n : String} {rest : List Step}

/-- A name is put down: what it spreads is down, or it is below in the stack. -/
lemma put (h : lib.Underway taken down (.put n :: rest)) :
    lib.Underway taken (down ++ [n]) rest where
  ready := h.ready.2
  inFront := h.inFront.tail
  settled := by
    refine h.settled.concat fun known d hd known' => ?_
    -- what has been taken up is down, or it is this name, or it is put down later
    have taken := h.accounted (h.ready.1 d hd known')
    rw [puts_put, List.mem_append, List.mem_cons] at taken
    rcases taken with hd' | rfl | hd'
    · exact .inr hd'
    · exact .inl (leadsTo_of_mem hd known')
    · exact .inl (List.rel_of_pairwise_cons h.inFront (put_mem_of_mem_puts hd') d rfl known)
  accounted := by simpa using h.accounted

/-- A name is taken up: what it spreads goes in front of it. -/
lemma take (h : lib.Underway taken down (.take n :: rest)) (known : n ∈ lib.names) :
    lib.Underway (n :: taken) down ((lib.dependencies n).map .take ++ .put n :: rest) where
  ready := by
    rw [ready_takes]
    refine ⟨fun d hd _ => by simp [hd], Ready.mono h.ready fun d hd _ => ?_⟩
    exact List.mem_append_right _ hd
  inFront := by
    -- what is put down later leads to `n`, and so to what `n` spreads
    have below (m : String) (hm : .put m ∈ rest) : lib.LeadsTo m n :=
      List.rel_of_pairwise_cons h.inFront hm m rfl known
    refine List.pairwise_append.mpr ⟨?_, List.pairwise_cons.mpr ⟨?_, h.inFront.tail⟩, ?_⟩
    · refine List.pairwise_map.mpr (List.pairwise_of_forall fun d d' m heq => ?_)
      cases heq
    · rintro s hs m rfl -
      exact below m hs
    · rintro s hs s' hs' m rfl known'
      obtain ⟨d, hd, rfl⟩ := List.mem_map.mp hs
      rcases List.mem_cons.mp hs' with heq | hs'
      · cases heq
        exact leadsTo_of_mem hd known'
      · exact (below m hs').step hd known'
  settled := h.settled
  accounted :=
    List.Subset.trans (List.cons_subset_cons n (by simpa using h.accounted))
      (perm_puts_take down _ n rest).symm.subset

/-- A name is passed over that is not known or was taken up before. -/
lemma pass (h : lib.Underway taken down (.take n :: rest)) (passed : ¬(n ∈ lib.names ∧ n ∉ taken)) :
    lib.Underway taken down rest where
  ready := by
    refine Ready.mono h.ready fun d hd known => ?_
    rcases List.mem_cons.mp hd with rfl | hd
    · exact not_not.mp fun hd => passed ⟨known, hd⟩
    · exact hd
  inFront := h.inFront.tail
  settled := h.settled
  accounted := by simpa using h.accounted

lemma settled_arrange {steps : List Step} (h : lib.Underway taken down steps) :
    lib.Settled (lib.arrange taken down steps) := by
  fun_induction lib.arrange taken down steps with
  | case1 taken down => exact h.settled
  | case2 taken down n rest ih => exact ih h.put
  | case3 taken down n rest hn ih => exact ih (h.take hn.1)
  | case4 taken down n rest hn ih => exact ih (h.pass hn)

end Underway

lemma settled_dependencyOrder (lib : FragmentLibrary) : lib.Settled lib.dependencyOrder := by
  refine Underway.settled_arrange ⟨?_, ?_, ?_, List.nil_subset _⟩
  · rw [← List.append_nil (lib.names.map _), ready_takes]
    trivial
  · refine List.pairwise_map.mpr (List.pairwise_of_forall fun n n' m heq => ?_)
    cases heq
  · intro n hn
    cases hn

/-! ### All fragments in order -/

/-- The known fragments: for each name the one loaded last, in the order of the names. -/
def fragments (lib : FragmentLibrary) : List LoadedFragment := lib.names.filterMap lib.find?

/-- The known fragments, dependencies first. -/
def fragmentsInOrder (lib : FragmentLibrary) : List LoadedFragment :=
  lib.dependencyOrder.filterMap lib.find?

lemma exists_find? {n : String} (known : n ∈ lib.names) :
    ∃ f, lib.find? n = some f ∧ f.name = n := by
  obtain ⟨f, hf, rfl⟩ := List.mem_map.mp (List.mem_eraseDups.mp known)
  have found : (lib.find? f.name).isSome := by
    rw [find?, List.find?_isSome]
    exact ⟨f, List.mem_reverse.mpr hf, beq_self_eq_true _⟩
  obtain ⟨g, hg⟩ := Option.isSome_iff_exists.mp found
  exact ⟨g, hg, by simpa using List.find?_some hg⟩

lemma perm_dependencyOrder (lib : FragmentLibrary) : lib.dependencyOrder.Perm lib.names :=
  (List.perm_ext_iff_of_nodup (nodup_dependencyOrder lib) (nodup_eraseDups _)).mpr fun _ =>
    mem_dependencyOrder

lemma map_name_filterMap_find? {ns : List String} (known : ∀ n ∈ ns, n ∈ lib.names) :
    (ns.filterMap lib.find?).map (·.name) = ns := by
  induction ns with
  | nil => rfl
  | cons n ns ih =>
    obtain ⟨f, hf, name⟩ := exists_find? (known n List.mem_cons_self)
    rw [List.filterMap_cons_some hf, List.map_cons, name,
      ih fun m hm => known m (List.mem_cons_of_mem _ hm)]

lemma before_of_acyclic (acyclic : lib.Acyclic) {n d : String} (hn : n ∈ lib.names)
    (hd : d ∈ lib.dependencies n) (known : d ∈ lib.names) :
    [d, n].Sublist lib.dependencyOrder := by
  refine (settled_dependencyOrder lib n (mem_dependencyOrder.mpr hn) hn d hd known).resolve_left ?_
  intro back
  exact acyclic n hn (back.behind hd known)

end FragmentLibrary

namespace Compiler

/-- The constant for a loaded fragment with its definition. -/
def constantFor (c : Compiler) (f : LoadedFragment) (definition : Fragment) : DocumentConstant :=
  ⟨c.fragmentConstant f.name, definition.text, []⟩

/-- There is one constant for each fragment that is defined and not external. -/
lemma forall₂_fragmentConstants (c : Compiler) :
    List.Forall₂ (fun f k => ∃ d, f.definition? = some d ∧ k = c.constantFor f d)
      (c.library.fragmentsInOrder.filter fun f => !f.isExternal && f.definition?.isSome)
      c.fragmentConstants := by
  have defined : ∀ f ∈ c.library.definitionsInOrder, f.definition?.isSome := by
    intro f hf
    have kept := (List.mem_filter.mp hf).2
    rw [Bool.and_eq_true] at kept
    exact kept.2
  rw [fragmentConstants]
  change List.Forall₂ _ c.library.definitionsInOrder _
  generalize c.library.definitionsInOrder = fs at defined ⊢
  induction fs with
  | nil => exact .nil
  | cons f fs ih =>
    obtain ⟨d, hd⟩ := Option.isSome_iff_exists.mp (defined f List.mem_cons_self)
    rw [List.filterMap_cons_some (b := c.constantFor f d) (by rw [hd]; rfl)]
    exact .cons ⟨d, hd, rfl⟩ (ih fun g hg => defined g (List.mem_cons_of_mem _ hg))

end Compiler

/-- On any graph of fragments, with cycles, repetitions and unknown names, the order of constants
holds each known fragment once; a fragment comes behind each known fragment that it spreads, unless
that one leads back to it, as a fragment does that spreads itself. So without cycles all
dependencies come first. The text of the fragments is made of one constant, in this order, for each
fragment that is defined and not external. -/
theorem dependencies_first (c : Compiler) :
    let lib := c.library
    lib.fragmentsInOrder.Perm lib.fragments ∧
      lib.fragmentsInOrder.map (·.name) = lib.dependencyOrder ∧
      lib.dependencyOrder.Nodup ∧ (∀ n, n ∈ lib.dependencyOrder ↔ n ∈ lib.names) ∧
      (∀ n ∈ lib.names, ∀ d ∈ lib.names, d ∈ lib.dependencies n → ¬lib.LeadsTo d n →
        [d, n].Sublist lib.dependencyOrder) ∧
      (lib.Acyclic → ∀ n ∈ lib.names, ∀ d ∈ lib.names, d ∈ lib.dependencies n →
        [d, n].Sublist lib.dependencyOrder) ∧
      ∃ texts, GeneratedModule.fragmentsText c.fragmentConstants = "\n".intercalate texts ∧
        List.Forall₂ (fun f t => ∃ d, f.definition? = some d ∧ t = (c.constantFor f d).text)
          (lib.fragmentsInOrder.filter fun f => !f.isExternal && f.definition?.isSome) texts := by
  intro lib
  refine ⟨(FragmentLibrary.perm_dependencyOrder lib).filterMap _, ?_,
    FragmentLibrary.nodup_dependencyOrder lib, fun n => FragmentLibrary.mem_dependencyOrder,
    fun n hn d known hd apart => ?_, fun acyclic n hn d known hd => ?_,
    c.fragmentConstants.map DocumentConstant.text, rfl, ?_⟩
  · exact FragmentLibrary.map_name_filterMap_find? fun n hn =>
      FragmentLibrary.mem_dependencyOrder.mp hn
  · exact (FragmentLibrary.settled_dependencyOrder lib n
      (FragmentLibrary.mem_dependencyOrder.mpr hn) hn d hd known).resolve_left apart
  · exact FragmentLibrary.before_of_acyclic acyclic hn hd known
  · refine List.forall₂_map_right_iff.mpr ((c.forall₂_fragmentConstants).imp fun f k h => ?_)
    obtain ⟨d, hd, rfl⟩ := h
    exact ⟨d, hd, rfl⟩

/-- A fragment that spreads one with a cycle of its own, and a chain without cycles. -/
theorem dependencies_first_chains :
    let loaded (name : Name) (spread : List Name) : LoadedFragment :=
      .ofFragment ⟨none, name, ⟨'T', [], rfl, rfl⟩, [], spread.map (.spread · [])⟩
    let a : Name := ⟨'A', [], rfl, rfl⟩
    let b : Name := ⟨'B', [], rfl, rfl⟩
    let cyclic : FragmentLibrary := ⟨[loaded a [b], loaded b [b]]⟩
    let plain : FragmentLibrary := ⟨[loaded a [b], loaded b []]⟩
    (¬cyclic.LeadsTo "B" "A" ∧ ["B", "A"].Sublist cyclic.dependencyOrder) ∧
      plain.Acyclic ∧ ["B", "A"].Sublist plain.dependencyOrder := by
  intro loaded a b cyclic plain
  have stays {n : String} (h : cyclic.LeadsTo "B" n) : n = "B" := by
    induction h with
    | spread hn _ => exact List.mem_singleton.mp hn
    | step _ hn _ ih => exact List.mem_singleton.mp (show _ ∈ cyclic.dependencies "B" from ih ▸ hn)
  have apart : ¬cyclic.LeadsTo "B" "A" := fun h => absurd (stays h) (by decide)
  have ends {n : String} (h : plain.LeadsTo "B" n) : False := by
    induction h with
    | spread hn _ => exact List.not_mem_nil hn
    | step _ _ _ ih => exact ih
  have next {n : String} (h : plain.LeadsTo "A" n) : n = "B" := by
    induction h with
    | spread hn _ => exact List.mem_singleton.mp hn
    | step _ hn known ih => exact (ends (.spread (ih ▸ hn) known)).elim
  have acyclic : plain.Acyclic := by
    intro n hn back
    have known : n ∈ ["A", "B"] := hn
    rcases List.mem_pair.mp known with rfl | rfl
    · exact absurd (next back) (by decide)
    · exact ends back
  obtain ⟨-, -, -, -, order, -⟩ := dependencies_first ⟨.default, cyclic, none⟩
  obtain ⟨-, -, -, -, -, order', -⟩ := dependencies_first ⟨.default, plain, none⟩
  exact ⟨⟨apart, order "A" (by decide) "B" (by decide) (by decide) apart⟩,
    acyclic, order' acyclic "A" (by decide) "B" (by decide) (by decide)⟩

end OperationHooks
