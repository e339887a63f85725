import OperationHooks.GeneratedModule
import OperationHooks.Proofs.Naming.Ascii
import OperationHooks.Proofs.Text.Joining
import OperationHooks.Proofs.Text.Lines
import OperationHooks.Proofs.TypeScript.Script

/-!
# The statements of a module

The text of a module is made of statements: one for each constant and each hook, and one for each
key that can be asked for. Read as a script, each is what it was written as: a constant has the
name and the items that it was made of, a hook exports its name and holds no template literal.
-/

namespace OperationHooks

open TypeScript

/-! ### Statements -/

/-- The statements of a binding. -/
def Binding.statements (b : Binding) : List String :=
  [b.document.text, b.hook.text]
    ++ if b.exposesKey then [Hook.keyAccessor b.hook.operation] else []

/-- The statements of a module, from top to bottom. -/
def GeneratedModule.statements (m : GeneratedModule) : List String :=
  m.fragments.map DocumentConstant.text ++ m.bindings.flatMap Binding.statements

/-- The text of a module is its statements, one after the other; an empty line stands in the place
of the constants of fragments where there are none. -/
lemma GeneratedModule.content_eq (m : GeneratedModule) :
    m.content = "\n".intercalate ((if m.fragments = [] then [""] else []) ++ m.statements) := by
  have nonempty : ∀ b ∈ (if m.fragments = [] then [""]
      else m.fragments.map DocumentConstant.text) :: m.bindings.map Binding.statements,
      b ≠ [] := by
    intro b hb
    rcases List.mem_cons.mp hb with rfl | hb
    · split <;> simp_all
    · obtain ⟨b', -, rfl⟩ := List.mem_map.mp hb
      simp [Binding.statements]
  have blocks := intercalate_flatten "\n" nonempty
  have texts : m.bindings.map Binding.text =
      (m.bindings.map Binding.statements).map "\n".intercalate := by
    rw [List.map_map]
    apply List.map_congr_left
    intro b _
    rw [Function.comp_apply, Binding.text, Binding.statements]
  have fragments : fragmentsText m.fragments =
      "\n".intercalate (if m.fragments = [] then [""]
        else m.fragments.map DocumentConstant.text) := by
    rw [fragmentsText]
    split
    · rename_i h
      rw [h]
      rfl
    · rfl
  rw [content, fragments, texts, ← List.map_cons, blocks, List.flatten_cons, statements,
    ← List.flatMap_def]
  split
  · rename_i h
    rw [h]
    rfl
  · rfl

/-! ### Lines of a statement -/

lemma toList_intercalate_newline (line : String) (lines : List String) :
    ("\n".intercalate (line :: lines)).toList =
      line.toList ++ lines.flatMap fun l => '\n' :: l.toList :=
  toList_intercalate_cons "\n" line lines

lemma flatMap_newline {lines : List String} (h : lines ≠ []) :
    (lines.flatMap fun l => '\n' :: l.toList) = '\n' :: joinLines (lines.map String.toList) := by
  obtain ⟨l, ls, rfl⟩ := List.exists_cons_of_ne_nil h
  rw [List.map_cons, joinLines_cons, List.flatMap_cons, List.cons_append, List.flatMap_map]

/-! ### Constants -/

namespace DocumentConstant

/-- What stands in front of a constant that is put in. -/
def embeddingMargin : List Char := ['\n', ' ', ' ', ' ', ' ']

/-- The line that puts a constant in. -/
def embeddingItems (constant : String) : List TemplateItem :=
  embeddingMargin.map .char ++ [.hole constant]

/-- The definition of a constant as it stands in the template literal. -/
def bodyLines (k : DocumentConstant) : List Char :=
  '\n' :: (constantMargin.before k.body.toList ++ moveLines constantMargin k.body.toList)

/-- The items of the template literal of a constant. -/
def items (k : DocumentConstant) : List TemplateItem :=
  k.bodyLines.map .char ++ k.embedded.flatMap embeddingItems

end DocumentConstant

lemma escapeTemplate_blanks {w : List Char} (h : ∀ c ∈ w, c = ' ') (r : List Char) :
    escapeTemplate (w ++ r) = w ++ escapeTemplate r := by
  induction w with
  | nil => rfl
  | cons c w ih =>
    rw [h c List.mem_cons_self, List.cons_append, escapeTemplate, if_neg (by decide),
      if_neg (by simp), ih fun d hd => h d (List.mem_cons_of_mem _ hd), List.cons_append]

lemma before_escapeTemplate (m : Margin) (cs : List Char) :
    m.before (escapeTemplate cs) = m.before cs := by
  fun_cases escapeTemplate cs with
  | case1 => rfl
  | case2 c r hc =>
    have hn : c ≠ '\n' := by rintro rfl; simp at hc
    rw [m.before_cons hn, m.before_cons (by decide)]
  | case3 c r hq hc =>
    rw [hc.1, m.before_cons (by decide), m.before_cons (by decide)]
  | case4 c r hq hc => rfl

/-- Escaping looks at one line at a time, so it makes no difference whether lines are moved before
or after it. -/
lemma escapeTemplate_moveLines (m : Margin) (cs : List Char) :
    escapeTemplate (moveLines m cs) = moveLines m (escapeTemplate cs) := by
  fun_induction escapeTemplate cs with
  | case1 => rfl
  | case2 c r hc ih =>
    have hn : c ≠ '\n' := by rintro rfl; simp at hc
    rw [moveLines_cons m hn, moveLines_cons m (by decide), moveLines_cons m hn, ← ih,
      escapeTemplate, if_pos hc]
  | case3 c r hq hc ih =>
    have hn : c ≠ '\n' := by rintro rfl; simp at hc
    rw [moveLines_cons m hn, moveLines_cons m (by decide), moveLines_cons m hn, ← ih,
      escapeTemplate, if_neg hq, head?_moveLines, if_pos hc]
  | case4 c r hq hc ih =>
    by_cases hn : c = '\n'
    · rw [hn, moveLines_newline, moveLines_newline, before_escapeTemplate, ← ih, escapeTemplate,
        if_neg (by decide), if_neg (by simp), escapeTemplate_blanks fun _ => m.mem_before]
    · rw [moveLines_cons m hn, moveLines_cons m hn, ← ih, escapeTemplate, if_neg hq,
        head?_moveLines, if_neg hc]

/-- What stands behind the definition of a constant is read as the constants put in. -/
lemma readTemplate_embedded {embedded : List String}
    (valid : ∀ v ∈ embedded, isConstantName v = true) :
    readTemplate ((embedded.flatMap fun v => '\n' :: ("    $\x7b" ++ v ++ "\x7d").toList)
        ++ "\x60;".toList) =
      some (embedded.flatMap DocumentConstant.embeddingItems, [';']) := by
  induction embedded with
  | nil => exact readTemplate_close [';']
  | cons v embedded ih =>
    have hv := valid v List.mem_cons_self
    rw [isConstantName, Bool.and_eq_true, bne_iff_ne, List.all_eq_true] at hv
    have hr := ih fun w hw => valid w (List.mem_cons_of_mem _ hw)
    have line : ('\n' :: ("    $\x7b" ++ v ++ "\x7d").toList) =
        escapeTemplate DocumentConstant.embeddingMargin
          ++ '$' :: '\x7b' :: (v.toList ++ ['\x7d']) := by
      simp only [String.toList_append]
      rfl
    have blanks := @readTemplate_escapeTemplate DocumentConstant.embeddingMargin
      ('$' :: '\x7b' :: (v.toList ++ '\x7d' ::
        ((embedded.flatMap fun v => '\n' :: ("    $\x7b" ++ v ++ "\x7d").toList)
          ++ "\x60;".toList))) (by decide) (by simp)
    rw [readTemplate_hole hv.1 hv.2, hr] at blanks
    rw [List.flatMap_cons, line]
    simp only [List.append_assoc, List.cons_append, List.nil_append]
    rw [blanks]
    simp [itemsBefore, DocumentConstant.embeddingItems]

/-- The lines of a constant are its definition, escaped, and the places of other constants. -/
lemma flatMap_lines (k : DocumentConstant) :
    (k.lines.flatMap fun l => '\n' :: l.toList) =
      escapeTemplate k.bodyLines
        ++ k.embedded.flatMap fun v => '\n' :: ("    $\x7b" ++ v ++ "\x7d").toList := by
  have lines : ((splitLines (escapeTemplate k.body.toList)).map
      fun l => String.ofList (moveIn l)) ≠ [] := by
    simpa using show splitLines _ ≠ [] from splitAtChar_ne_nil _ _
  have back : (String.toList ∘ fun l => String.ofList (moveIn l)) = moveIn := by
    funext l
    exact String.toList_ofList
  rw [DocumentConstant.lines, List.flatMap_append, flatMap_newline lines, List.map_map, back,
    joinLines_map_moveIn, before_escapeTemplate, ← escapeTemplate_moveLines, List.flatMap_map,
    DocumentConstant.bodyLines, escapeTemplate, if_neg (by decide), if_neg (by simp),
    escapeTemplate_blanks fun _ => constantMargin.mem_before]

lemma toList_constant (k : DocumentConstant) :
    k.text.toList = exportConst ++ k.name.toList ++ (opensTemplate ++
      (escapeTemplate k.bodyLines ++
        ((k.embedded.flatMap fun v => '\n' :: ("    $\x7b" ++ v ++ "\x7d").toList)
          ++ "\x60;".toList))) := by
  rw [DocumentConstant.text, String.toList_append, toList_intercalate_newline, flatMap_lines]
  simp only [String.toList_append, List.append_assoc]
  rfl

lemma exportedName?_constant {k : DocumentConstant}
    (valid : ∀ c ∈ k.name.toList, isNameChar c = true) :
    exportedName? k.text = some k.name := by
  rw [exportedName?_eq valid (stops_cons.mpr (by decide)) (toList_constant k),
    String.ofList_toList]

/-- The statement that declares a constant is read as that constant. -/
lemma readConstant_text {k : DocumentConstant} (name : isConstantName k.name = true)
    (valid : ∀ v ∈ k.embedded, isConstantName v = true) (body : '\r' ∉ k.body.toList) :
    readConstant k.text = some (k.name, k.items) := by
  rw [isConstantName, Bool.and_eq_true, List.all_eq_true] at name
  have noReturn : '\r' ∉ k.bodyLines := by
    intro h
    rcases List.mem_cons.mp h with h | h
    · simp at h
    · rcases List.mem_append.mp h with h | h
      · exact absurd (constantMargin.mem_before h) (by decide)
      · exact body ((mem_moveLines constantMargin h).resolve_left (by decide))
  have behind : ((k.embedded.flatMap fun v => '\n' :: ("    $\x7b" ++ v ++ "\x7d").toList)
      ++ "\x60;".toList).head? ≠ some '\x7b' := by
    cases k.embedded <;> simp
  have read := readTemplate_escapeTemplate noReturn behind
  rw [readTemplate_embedded valid] at read
  rw [readConstant_eq_some name.2 (toList_constant k) read, String.ofList_toList]
  rfl

/-! ### Hooks -/

/-- A hook goes on with its type parameters behind its name. -/
lemma exists_toList_text (h : Hook) :
    ∃ r, h.text.toList = exportConst ++ h.operation.hookName.toList ++ (" = <".toList ++ r) := by
  have lines : h.lines = ("export const " ++ h.operation.hookName ++ " = <") :: h.lines.tail := by
    cases h <;> rfl
  refine ⟨h.lines.tail.flatMap fun l => '\n' :: l.toList, ?_⟩
  rw [Hook.text, lines, toList_intercalate_newline, String.toList_append, String.toList_append,
    List.append_assoc]
  rfl

/-- A hook exports its name and declares no template literal. -/
lemma read_hook {h : Hook} (name : ∀ c ∈ h.operation.hookName.toList, isNameChar c = true) :
    exportedName? h.text = some h.operation.hookName ∧ readConstant h.text = none := by
  obtain ⟨r, hr⟩ := exists_toList_text h
  have stop : Stops isNameChar (" = <".toList ++ r) := stops_cons.mpr (by decide)
  rw [exportedName?_eq name stop hr, String.ofList_toList]
  exact ⟨rfl, readConstant_eq_none name stop hr (by simp [opensTemplate, List.isPrefixOf?])⟩

/-- What lets other code ask for a key exports nothing. -/
lemma read_keyAccessor (op : OperationSummary) :
    exportedName? (Hook.keyAccessor op) = none ∧ readConstant (Hook.keyAccessor op) = none := by
  have text : (Hook.keyAccessor op).toList = 'u' :: (Hook.keyAccessor op).toList.tail := by
    simp only [Hook.keyAccessor, OperationSummary.hookName, String.toList_append]
    rfl
  have other : exportConst.isPrefixOf? (Hook.keyAccessor op).toList = none := by
    rw [text]
    rfl
  rw [exportedName?, readConstant, other]
  exact ⟨rfl, rfl⟩

/-! ### Bindings -/

lemma isNameChar_of_isAlphanum {c : Char} (h : c.isAlphanum = true) : isNameChar c = true := by
  rw [Char.isAlphanum, Bool.or_eq_true] at h
  rcases h with h | h <;> simp [isNameChar, isIdentifierPart, isIdentifierStart, h]

lemma isNameChar_pascal {name : String} (h : ∀ c ∈ name.toList, isNameContinue c = true) :
    ∀ c ∈ (Naming.pascal name).toList, isNameChar c = true := by
  intro c hc
  rw [Naming.pascal, String.toList_ofList] at hc
  exact isNameChar_of_isAlphanum (Naming.isAlphanum_pascalChars h c hc)

lemma isNameChar_hookName (c : Compiler) (o : Operation) :
    ∀ x ∈ (c.summarize o).hookName.toList, isNameChar x = true := by
  intro x hx
  have suffix : ∀ x ∈ (c.kindSuffix o.kind).toList, isNameChar x = true := by
    rw [Compiler.kindSuffix]
    split
    · simp
    · cases o.kind <;> exact List.all_eq_true.mp (by decide)
  simp only [OperationSummary.hookName, Compiler.summarize, Naming.affixed, String.toList_append,
    List.mem_append] at hx
  rcases hx with hx | (hx | hx) | hx
  · exact List.all_eq_true.mp (by decide : "use".toList.all isNameChar = true) x hx
  · simp at hx
  · exact isNameChar_pascal (Compiler.isNameContinue_operationName o) x hx
  · exact suffix x hx

end OperationHooks
