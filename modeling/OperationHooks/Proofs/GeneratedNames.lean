import OperationHooks.Proofs.ExportedNames
import OperationHooks.Proofs.Naming.Letters
import OperationHooks.Proofs.TypeScript.ImportDeclaration

/-!
# Generated names as identifiers

Generated names are made of letters and digits, and none is a reserved word. So all that can be
wrong with one is its front: a GraphQL name may have a digit behind its underscores, or nothing at
all, and the conversion takes the underscores away. The name of a hook has a front of its own.
-/

namespace OperationHooks

open Compiler TypeScript

/-! ### Texts of letters and digits -/

lemma isIdentifierPart_of_isAlphanum {c : Char} (h : c.isAlphanum = true) :
    isIdentifierPart c = true := by
  rw [Char.isAlphanum, Bool.or_eq_true] at h
  rcases h with letter | digit
  · simp [isIdentifierPart, isIdentifierStart, letter]
  · simp [isIdentifierPart, digit]

/-- Among letters and digits it is the letters that start an identifier. -/
lemma isIdentifierStart_eq_not_isDigit {c : Char} (h : c.isAlphanum = true) :
    isIdentifierStart c = !c.isDigit :=
  forall_ascii (p := fun c => c.isAlphanum = true → isIdentifierStart c = !c.isDigit) (by decide)
    (ascii_of_isNameContinue (isNameContinue_of_isAlphanum h)) h

/-- A text of letters and digits is an identifier unless it is empty or starts with a digit. -/
lemma isWord_of_isAlphanum (A : Alphabet) {cs : List Char} (h : ∀ c ∈ cs, c.isAlphanum = true) :
    A.isWord cs = cs.head?.any (!·.isDigit) := by
  have ascii : ∀ c ∈ cs, c.toNat < 128 := fun c hc =>
    ascii_of_isNameContinue (isNameContinue_of_isAlphanum (h c hc))
  have parts : cs.all A.part = true := by
    rw [List.all_eq_true]
    intro c hc
    rw [A.part_ascii c (ascii c hc), isIdentifierPart_of_isAlphanum (h c hc)]
  rw [Alphabet.isWord, parts, Bool.and_true]
  cases cs with
  | nil => rfl
  | cons c cs =>
    have hc : c ∈ c :: cs := List.mem_cons_self
    exact (A.start_ascii c (ascii c hc)).trans (isIdentifierStart_eq_not_isDigit (h c hc))

lemma not_isBindable_of_isDigit (A : Alphabet) {name : String}
    (h : name.toList.all Char.isAlphanum = true)
    (digit : name.toList.head?.any Char.isDigit = true) : ¬A.IsBindable name := by
  rintro ⟨word, -⟩
  rw [isWord_of_isAlphanum A (List.all_eq_true.mp h)] at word
  cases front : name.toList.head? with
  | none => simp [front] at digit
  | some c =>
    rw [front, Option.any_some] at word digit
    simp [digit] at word

/-- Reserved words start with a small letter. -/
lemma not_mem_reservedWords {name : String} (h : ∀ c ∈ name.toList.head?, c.isLower = false) :
    name ∉ reservedWords := by
  have small : ∀ w ∈ reservedWords, w.toList.head?.any Char.isLower = true := by decide
  intro reserved
  have low := small name reserved
  cases front : name.toList.head? with
  | none => simp [front] at low
  | some c => simp [front, h c front] at low

/-- No reserved word starts as the name of a hook does. -/
lemma use_append_not_mem_reservedWords (name : String) : "use" ++ name ∉ reservedWords := by
  have other : ∀ w ∈ reservedWords, w.toList.take 3 ≠ "use".toList := by decide
  intro reserved
  exact other _ reserved (by rw [String.toList_append]; rfl)

/-! ### Names and what is put behind them -/

/-- Whether a name has a digit behind its underscores. -/
def Name.StartsWithDigit (n : Name) : Prop :=
  (n.chars.find? (· ≠ '_')).any Char.isDigit = true

/-- Whether a name is made of underscores only. -/
def Name.IsBlank (n : Name) : Prop := ∀ c ∈ n.chars, c = '_'

instance (n : Name) : Decidable n.StartsWithDigit := inferInstanceAs (Decidable (_ = true))

instance (n : Name) : Decidable n.IsBlank := List.decidableBAll (· = '_') n.chars

/-- Something that can be put behind a converted name: letters and digits, a capital in front. -/
structure IsSuffix (suffix : String) : Prop where
  word : suffix.toList.all Char.isAlphanum = true
  capital : ∀ c ∈ suffix.toList.head?, c.isUpper = true

variable {n : Name} {suffix : String}

lemma toList_affixed (n : Name) (suffix : String) :
    (Naming.affixed "" n.text suffix).toList = Naming.pascalChars n.chars ++ suffix.toList := by
  simp [Naming.affixed, Naming.pascal]

lemma isAlphanum_affixed (h : IsSuffix suffix) :
    ∀ c ∈ (Naming.affixed "" n.text suffix).toList, c.isAlphanum = true := by
  intro c hc
  rw [toList_affixed, List.mem_append] at hc
  rcases hc with hc | hc
  · exact Naming.isAlphanum_pascalChars n.isNameContinue_chars c hc
  · exact List.all_eq_true.mp h.word c hc

lemma not_isLower_head?_affixed (h : IsSuffix suffix) :
    ∀ c ∈ (Naming.affixed "" n.text suffix).toList.head?, c.isLower = false := by
  have front := Naming.not_isLower_head?_pascalChars n.isNameContinue_chars
  rw [toList_affixed]
  cases converted : Naming.pascalChars n.chars with
  | nil =>
    exact fun c hc => not_isLower_of_isUpper (h.capital c hc)
  | cons d ds =>
    rw [converted] at front
    exact front

/-- A converted name with something behind it can be bound unless it starts with a digit or is
empty. -/
lemma isBindable_affixed_iff (A : Alphabet) (h : IsSuffix suffix) :
    A.IsBindable (Naming.affixed "" n.text suffix) ↔
      ¬n.StartsWithDigit ∧ (suffix = "" → ¬n.IsBlank) := by
  have free := not_mem_reservedWords (not_isLower_head?_affixed (n := n) h)
  have digit := Naming.any_isDigit_head?_pascalChars n.isNameContinue_chars
  have blank := Naming.pascalChars_eq_nil_iff n.isNameContinue_chars
  rw [Alphabet.IsBindable, and_iff_left free, isWord_of_isAlphanum A (isAlphanum_affixed h),
    toList_affixed, Name.StartsWithDigit, ← digit, Name.IsBlank, ← blank]
  cases Naming.pascalChars n.chars with
  | cons c cs => simp
  | nil =>
    -- nothing is left of the name, so the suffix is all there is
    rw [← String.toList_eq_nil_iff, List.nil_append]
    cases chars : suffix.toList with
    | nil => simp
    | cons c cs =>
      have capital : c.isUpper = true := h.capital c (by rw [chars]; rfl)
      simp [not_isDigit_of_isUpper capital]

/-- A name that starts as those of hooks do can be bound. -/
lemma isBindable_use_affixed (A : Alphabet) (n : Name) (h : IsSuffix suffix) :
    A.IsBindable ("use" ++ Naming.affixed "" n.text suffix) := by
  have word : ∀ c ∈ ("use" ++ Naming.affixed "" n.text suffix).toList, c.isAlphanum = true := by
    have front : ∀ c ∈ "use".toList, c.isAlphanum = true := List.all_eq_true.mp rfl
    intro c hc
    rw [String.toList_append, List.mem_append] at hc
    exact hc.elim (front c) (isAlphanum_affixed h c)
  refine ⟨?_, use_append_not_mem_reservedWords _⟩
  rw [isWord_of_isAlphanum A word, String.toList_append]
  rfl

/-! ### Generated names -/

lemma isSuffix_document : IsSuffix Settings.default.documentSuffix :=
  ⟨rfl, by rintro _ ⟨⟩; rfl⟩

lemma isSuffix_fragment : IsSuffix Settings.default.fragmentSuffix :=
  ⟨rfl, by rintro _ ⟨⟩; rfl⟩

lemma isSuffix_kindSuffix (c : Compiler) (k : OperationKind) :
    IsSuffix (c.kindSuffix k) ∧ IsSuffix (c.kindSuffix k ++ "Variables") := by
  rw [kindSuffix]
  split
  · exact ⟨⟨rfl, by rintro _ ⟨⟩⟩, ⟨rfl, by rintro _ ⟨⟩; rfl⟩⟩
  · cases k <;> exact ⟨⟨rfl, by rintro _ ⟨⟩; rfl⟩, ⟨rfl, by rintro _ ⟨⟩; rfl⟩⟩

lemma kindSuffix_eq_empty_iff (c : Compiler) (k : OperationKind) :
    c.kindSuffix k = "" ↔ c.settings.omitOperationSuffix = true := by
  rw [kindSuffix]
  split
  · next omitted => simp [omitted]
  · next kept =>
    rw [iff_false_right kept]
    cases k <;> decide

/-- With the usual suffixes all generated names are identifiers and no reserved words: those of
hooks for every GraphQL name, the others for a name without a digit behind its underscores; where
the kind of an operation is left out, the type of its result needs a name that is not made of
underscores only. -/
theorem generated_names_bindable_iff (A : Alphabet) {c : Compiler}
    (usual : c.settings.UsualSuffixes) :
    (∀ (o : Operation) (n : Name), o.name? = some n →
      A.IsBindable (c.summarize o).hookName ∧
      (A.IsBindable (c.documentName o) ↔ ¬n.StartsWithDigit) ∧
      (∃ type, (c.summarize o).resultType = c.settings.typePrefix ++ type ∧
        (A.IsBindable type ↔
          ¬n.StartsWithDigit ∧ (c.settings.omitOperationSuffix = true → ¬n.IsBlank))) ∧
      ∃ type, (c.summarize o).variablesType = c.settings.typePrefix ++ type ∧
        (A.IsBindable type ↔ ¬n.StartsWithDigit)) ∧
    ∀ f : Fragment, A.IsBindable (c.fragmentConstant f.name.text) ↔ ¬f.name.StartsWithDigit := by
  have affixed {n : Name} {suffix : String} (h : IsSuffix suffix) (ne : suffix ≠ "") :
      A.IsBindable (Naming.affixed "" n.text suffix) ↔ ¬n.StartsWithDigit := by
    rw [isBindable_affixed_iff A h]
    exact and_iff_left fun empty => absurd empty ne
  constructor
  · intro o n named
    have name : operationName o = n.text := by
      rw [operationName, named]
      rfl
    obtain ⟨suffix, suffix'⟩ := isSuffix_kindSuffix c o.kind
    refine ⟨?_, ?_, ⟨Naming.affixed "" n.text (c.kindSuffix o.kind), ?_, ?_⟩,
      Naming.affixed "" n.text (c.kindSuffix o.kind ++ "Variables"), ?_, ?_⟩
    · rw [OperationSummary.hookName, summarize, name]
      exact isBindable_use_affixed A n suffix
    · rw [documentName, name, usual.document]
      exact affixed isSuffix_document (by decide)
    · rw [summarize, name]
    · rw [isBindable_affixed_iff A suffix, kindSuffix_eq_empty_iff]
    · rw [summarize, name]
    · exact affixed suffix' (by simp)
  · intro f
    rw [fragmentConstant, usual.fragment]
    exact affixed isSuffix_fragment (by decide)

/-- Without suffixes nothing is left of a name of one underscore: its constant and its hook have
names, and its result has none. -/
theorem generated_names_bindable_iff_underscore :
    let c : Compiler :=
      compilerFor { Settings.default with omitOperationSuffix := true } .browser []
    let o : Operation := .bare .query (some ⟨'_', [], rfl, rfl⟩) []
    let f : Fragment := ⟨none, ⟨'_', ['a', '1'], rfl, rfl⟩, ⟨'T', [], rfl, rfl⟩, [], []⟩
    c.settings.UsualSuffixes ∧ o.name? = some ⟨'_', [], rfl, rfl⟩ ∧
      Alphabet.ascii.IsBindable (c.summarize o).hookName ∧
      Alphabet.ascii.IsBindable (c.documentName o) ∧
      (∃ type, (c.summarize o).resultType = type ∧ ¬Alphabet.ascii.IsBindable type) ∧
      Alphabet.ascii.IsBindable (c.fragmentConstant f.name.text) := by
  intro c o f
  have usual : c.settings.UsualSuffixes := ⟨rfl, rfl⟩
  obtain ⟨operations, fragments⟩ := generated_names_bindable_iff Alphabet.ascii usual
  obtain ⟨hook, document, ⟨type, result, bindable⟩, -⟩ := operations o _ rfl
  refine ⟨usual, rfl, hook, document.mpr (by decide), ⟨type, ?_, ?_⟩,
    (fragments f).mpr (by decide)⟩
  · rw [result]
    exact String.empty_append
  · exact fun h => (bindable.mp h).2 rfl (by decide)

/-- A name with a digit behind its underscore: what is generated for it cannot be read. -/
theorem generated_name_starts_with_digit :
    let o : Operation := .bare .query (some ⟨'_', ['1'], rfl, rfl⟩)
      [.leaf ⟨none, ⟨'a', [], rfl, rfl⟩, [], []⟩]
    ∃ m b, generate .null [[.operation o]] = .ok m ∧ m.bindings = [b] ∧
      b.document.name = "1Document" ∧ b.hook.operation.resultType = "1Query" ∧
      ∀ A : Alphabet, ¬A.IsBindable "1Document" ∧ ¬A.IsBindable "1Query" := by
  intro o
  have image := bindings_image .default .browser [.operation o]
  change List.Forall₂ _ [o] _ at image
  have document : (compilerFor .default .browser [.operation o]).documentName o = "1Document" := by
    cbv
  have result : ((compilerFor .default .browser [.operation o]).summarize o).resultType =
      "1Query" := by
    cbv
  generalize bound : ((compilerFor .default .browser [.operation o]).module [.operation o]).bindings
    = bs at image
  cases image with
  | cons binding rest =>
    cases rest
    obtain ⟨constant, operation, -⟩ := binding?_eq_some binding
    refine ⟨_, _, rfl, bound, ?_, ?_, fun A =>
      ⟨not_isBindable_of_isDigit A rfl rfl, not_isBindable_of_isDigit A rfl rfl⟩⟩
    · rw [constant, ← document]
      rfl
    · rw [operation, result]

end OperationHooks
