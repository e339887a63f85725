import Mathlib.Data.List.Forall2
import OperationHooks.Proofs.GraphQL.Indentation
import OperationHooks.Proofs.Statements

/-!
# The values of constants

What the constants of a module evaluate to, from top to bottom, and the tokens of these values. The
constant of a fragment has its definition as its value, with the lines moved in; the constant of an
operation has the values of the constants put in behind its own.
-/

namespace OperationHooks

open TypeScript

/-- The constants that a module declares, from top to bottom. -/
def GeneratedModule.constants (m : GeneratedModule) : List DocumentConstant :=
  m.fragments ++ m.bindings.map Binding.document

/-! ### Names -/

section names

variable {k : DocumentConstant} {b : Binding} {x : String} {items : List TemplateItem}

lemma isNameChar_of_isConstantName {name : String} (h : isConstantName name = true) :
    ∀ c ∈ name.toList, isNameChar c = true := by
  rw [isConstantName, Bool.and_eq_true, List.all_eq_true] at h
  exact h.2

lemma mem_declaredConstants {statements : List String} :
    x ∈ declaredConstants statements ↔
      ∃ s ∈ statements, ∃ items, readConstant s = some (x, items) := by
  simp [declaredConstants, List.mem_filterMap]

/-- The statement of a constant declares it, if anything. -/
lemma name_of_readConstant (valid : isConstantName k.name = true)
    (h : readConstant k.text = some (x, items)) : x = k.name := by
  have name := exportedName?_of_readConstant h
  rw [exportedName?_constant (isNameChar_of_isConstantName valid), Option.some.injEq] at name
  exact name.symm

lemma declaredConstants_fragments {ks : List DocumentConstant}
    (valid : ∀ k ∈ ks, isConstantName k.name = true) :
    declaredConstants (ks.map DocumentConstant.text) ⊆ ks.map (·.name) := by
  intro x hx
  obtain ⟨s, hs, items, h⟩ := mem_declaredConstants.mp hx
  obtain ⟨k, hk, rfl⟩ := List.mem_map.mp hs
  exact List.mem_map.mpr ⟨k, hk, (name_of_readConstant (valid k hk) h).symm⟩

/-- The statements of a binding declare its constant and nothing else. -/
lemma name_of_mem_statements (valid : isConstantName b.document.name = true)
    (hook : ∀ c ∈ b.hook.operation.hookName.toList, isNameChar c = true) {s : String}
    (hs : s ∈ b.statements) (h : readConstant s = some (x, items)) : x = b.document.name := by
  rw [Binding.statements, List.mem_append] at hs
  rcases hs with hs | hs
  · rcases List.mem_pair.mp hs with rfl | rfl
    · exact name_of_readConstant valid h
    · rw [(read_hook hook).2] at h
      cases h
  · split at hs
    · rw [List.mem_singleton] at hs
      rw [hs, (read_keyAccessor b.hook.operation).2] at h
      cases h
    · cases hs

lemma declaredConstants_bindings {bs : List Binding}
    (valid : ∀ b ∈ bs, isConstantName b.document.name = true)
    (hooks : ∀ b ∈ bs, ∀ c ∈ b.hook.operation.hookName.toList, isNameChar c = true) :
    declaredConstants (bs.flatMap Binding.statements) ⊆ bs.map (·.document.name) := by
  intro x hx
  obtain ⟨s, hs, items, h⟩ := mem_declaredConstants.mp hx
  obtain ⟨b, hb, hs⟩ := List.mem_flatMap.mp hs
  exact List.mem_map.mpr ⟨b, hb, (name_of_mem_statements (valid b hb) (hooks b hb) hs h).symm⟩

lemma declaredConstants_append (ss ts : List String) :
    declaredConstants (ss ++ ts) = declaredConstants ss ++ declaredConstants ts :=
  List.filterMap_append

end names

/-! ### Values -/

/-- A constant without others in it has its own lines as its value, wherever it stands. -/
lemma lookup_fragment {ks : List DocumentConstant} (valid : ∀ k ∈ ks, isConstantName k.name = true)
    (unique : (ks.map (·.name)).Nodup) {k : DocumentConstant} (hk : k ∈ ks)
    (plain : k.embedded = []) (body : '\r' ∉ k.body.toList) (rest : List String) :
    (evaluate (ks.map DocumentConstant.text ++ rest)).lookup k.name = some k.bodyLines := by
  obtain ⟨pre, post, rfl⟩ := List.append_of_mem hk
  have read : readConstant k.text = some (k.name, k.items) :=
    readConstant_text (valid k hk) (by simp [plain]) body
  have fresh : k.name ∉ declaredConstants (pre.map DocumentConstant.text) := by
    intro h
    have h := declaredConstants_fragments (fun k hk => valid k (List.mem_append_left _ hk)) h
    rw [List.map_append, List.map_cons] at unique
    exact (List.nodup_append.mp unique).2.2 _ h _ List.mem_cons_self rfl
  have filled : fill (evaluate (pre.map DocumentConstant.text)) k.items = some k.bodyLines := by
    rw [DocumentConstant.items, plain, List.flatMap_nil, fill_char]
    simp [fill]
  rw [List.map_append, List.map_cons, List.append_assoc, List.cons_append]
  exact lookup_evaluate read fresh filled

/-- The places of constants are filled with their values, each on a line of its own. -/
lemma fill_embedded {values : Values} {vs : List String} {texts : List (List Char)}
    (h : List.Forall₂ (fun v t => values.lookup v = some t) vs texts) :
    fill values (vs.flatMap DocumentConstant.embeddingItems) =
      some (texts.flatMap (DocumentConstant.embeddingMargin ++ ·)) := by
  induction h with
  | nil => rfl
  | @cons v t vs texts hv _ ih =>
    rw [List.flatMap_cons, DocumentConstant.embeddingItems, List.append_assoc, fill_char,
      List.singleton_append, fill, hv, ih, List.flatMap_cons, List.append_assoc]
    rfl

/-- The constant of an operation has its own lines as its value, and behind them the values of the
constants put in. -/
lemma lookup_document {pre : List String} {k : DocumentConstant}
    (valid : isConstantName k.name = true) (embedded : ∀ v ∈ k.embedded, isConstantName v = true)
    (body : '\r' ∉ k.body.toList) (fresh : k.name ∉ declaredConstants pre)
    {texts : List (List Char)}
    (h : List.Forall₂ (fun v t => (evaluate pre).lookup v = some t) k.embedded texts)
    (post : List String) :
    (evaluate (pre ++ k.text :: post)).lookup k.name =
      some (k.bodyLines ++ texts.flatMap (DocumentConstant.embeddingMargin ++ ·)) := by
  refine lookup_evaluate (readConstant_text valid embedded body) fresh ?_
  rw [DocumentConstant.items, fill_char, fill_embedded h]
  rfl

/-! ### Tokens -/

/-- A blank in front makes no difference. -/
lemma tokens?_newline (r : List Char) : tokens? ('\n' :: r) = tokens? r :=
  tokens?_congr rfl

lemma tokens?_blanks {w : List Char} (hw : ∀ c ∈ w, c = ' ') (r : List Char) :
    tokens? (w ++ r) = tokens? r :=
  tokens?_congr (dropIgnored_blanks hw r)

lemma tokens?_bodyLines {k : DocumentConstant} {ts : List Token} (body : '\r' ∉ k.body.toList)
    (h : tokens? k.body.toList = some ts) {tail : List Char} (line : LineTail tail) :
    tokens? (k.bodyLines ++ tail) = (tokens? tail).map (ts ++ ·) := by
  rw [DocumentConstant.bodyLines, List.cons_append, List.append_assoc, tokens?_newline,
    tokens?_blanks fun _ => constantMargin.mem_before, tokens?_moveLines constantMargin body line h]

lemma lineTail_embedded (texts : List (List Char)) :
    LineTail (texts.flatMap (DocumentConstant.embeddingMargin ++ ·)) := by
  cases texts with
  | nil => simp [LineTail]
  | cons text texts =>
    rintro c ⟨⟩
    rfl

/-- Values of constants on lines of their own have the tokens of all of them. -/
lemma tokens?_embedded {ks : List DocumentConstant} {tss : List (List Token)}
    (body : ∀ k ∈ ks, '\r' ∉ k.body.toList)
    (h : List.Forall₂ (fun k ts => tokens? k.body.toList = some ts) ks tss) :
    tokens? ((ks.map DocumentConstant.bodyLines).flatMap (DocumentConstant.embeddingMargin ++ ·)) =
      some tss.flatten := by
  induction h with
  | nil => exact tokens?_of_dropIgnored_eq_nil rfl
  | @cons k ts ks tss hk _ ih =>
    have ih := ih fun k hk => body k (List.mem_cons_of_mem _ hk)
    have blanks (r : List Char) : tokens? (DocumentConstant.embeddingMargin ++ r) = tokens? r :=
      tokens?_congr rfl
    rw [List.map_cons, List.flatMap_cons, List.append_assoc, blanks,
      tokens?_bodyLines (body k List.mem_cons_self) hk (lineTail_embedded _), ih]
    rfl

end OperationHooks
