import OperationHooks.Mapper
import OperationHooks.Proofs.Text.Ascii
import OperationHooks.Proofs.Text.Joining
import OperationHooks.Proofs.TypeScript.Quoted
import OperationHooks.Text.Blank

/-!
# Reading import declarations

How an import declaration that binds names is read: into words, string literals and marks, and these
into the module that is named and the local names that are bound, each with the export that it
stands for. Comments, escapes in names and imports of types alone are not read.
-/

namespace OperationHooks

namespace TypeScript

/-! ### Identifiers -/

/-- White space of scripts and the ends of their lines. -/
def isScriptBlank (c : Char) : Bool :=
  c.toNat == 0xfeff
    || (isBlankChar c && !(0x1c ≤ c.toNat && c.toNat ≤ 0x1f) && c.toNat != 0x85)

/-- What identifiers are made of: among ASCII the usual characters, and beyond it those of some
version of Unicode, in none of which white space is a part of an identifier. -/
structure Alphabet where
  start : Char → Bool
  part : Char → Bool
  part_of_start : ∀ c, start c = true → part c = true
  start_ascii : ∀ c, c.toNat < 128 → start c = isIdentifierStart c
  part_ascii : ∀ c, c.toNat < 128 → part c = isIdentifierPart c
  not_blank : ∀ c, part c = true → isScriptBlank c = false

/-- Words that bind nothing in a module. -/
def reservedWords : List String :=
  ["arguments", "await", "break", "case", "catch", "class", "const", "continue", "debugger",
    "default", "delete", "do", "else", "enum", "eval", "export", "extends", "false", "finally",
    "for", "function", "if", "implements", "import", "in", "instanceof", "interface", "let", "new",
    "null", "package", "private", "protected", "public", "return", "static", "super", "switch",
    "this", "throw", "true", "try", "typeof", "var", "void", "while", "with", "yield"]

namespace Alphabet

lemma ascii_of_isIdentifierPart {c : Char} (h : isIdentifierPart c = true) : c.toNat < 128 := by
  by_cases dollar : c = '$'
  · exact dollar ▸ by decide
  · apply ascii_of_isNameContinue
    simpa [isIdentifierPart, isIdentifierStart, isNameContinue, isNameStart, dollar] using h

/-- Only ASCII characters. -/
def ascii : Alphabet where
  start := isIdentifierStart
  part := isIdentifierPart
  part_of_start c h := by simp [isIdentifierPart, h]
  start_ascii _ _ := rfl
  part_ascii _ _ := rfl
  not_blank c h := by
    have apart : isIdentifierPart c = true → isScriptBlank c = false :=
      @forall_ascii (fun c => isIdentifierPart c = true → isScriptBlank c = false) (by decide) c
        (ascii_of_isIdentifierPart h)
    exact apart h

variable (A : Alphabet)

/-- A text that is an identifier. -/
def isWord (cs : List Char) : Bool := cs.head?.any A.start && cs.all A.part

/-- A text that can be the name of a binding. -/
def IsBindable (name : String) : Prop := A.isWord name.toList = true ∧ name ∉ reservedWords

instance (name : String) : Decidable (A.IsBindable name) :=
  inferInstanceAs (Decidable (_ ∧ _))

end Alphabet

/-! ### Tokens -/

/-- A token of an import declaration. -/
inductive ImportToken where
  | word (name : String)
  | text (value : String)
  | mark (c : Char)
deriving DecidableEq, Repr

/-- The marks of import declarations. -/
def importMarks : List Char := ['\x7b', '\x7d', ',', '*', ';']

variable (A : Alphabet)

/-- A token in front of a text, and the text behind it. -/
def readToken (cs : List Char) : Option (ImportToken × Shorter cs) :=
  match cs with
  | [] => none
  | c :: r =>
    if c = '"' ∨ c = '\'' then
      (readQuoted c r).map fun (s, r₁) => (.text (String.ofList s), r₁.behind c)
    else if c ∈ importMarks then some (.mark c, (NoLonger.all r).behind c)
    else if A.start c then
      some (.word (String.ofList (c :: r.takeWhile A.part)),
        NoLonger.behind c ⟨r.dropWhile A.part, length_dropWhile_le _ r⟩)
    else none

/-- The tokens of a text. -/
def importTokens? (cs : List Char) : Option (List ImportToken) :=
  match _h : cs.dropWhile isScriptBlank with
  | [] => some []
  | c :: r => do
    let (t, rest) ← readToken A (c :: r)
    (importTokens? rest.1).map (t :: ·)
termination_by cs.length
decreasing_by
  have le := length_dropWhile_le isScriptBlank cs
  have lt := rest.2
  rw [_h] at le
  omega

/-! ### Declarations -/

/-- What a module exports: its default, all of it as one object, or something by its name. -/
inductive Export where
  | default
  | all
  | named (name : String)
deriving DecidableEq, Repr

/-- A local name, and what it stands for. -/
structure ImportBinding where
  exported : Export
  name : String
deriving DecidableEq, Repr

/-- The bindings of a declaration, and the module that it names. -/
structure ImportDeclaration where
  bindings : List ImportBinding
  specifier : String
deriving DecidableEq, Repr

mutual

/-- The names in braces from the text behind the opening one, and what is left behind the closing
one. A comma may stand behind the last name. -/
def readSpecifiers : List ImportToken → Option (List ImportBinding × List ImportToken)
  | .mark '\x7d' :: ts => some ([], ts)
  | .word x :: .word "as" :: .word y :: ts => readBehindName ⟨.named x, y⟩ ts
  | .text x :: .word "as" :: .word y :: ts => readBehindName ⟨.named x, y⟩ ts
  | .word x :: ts => readBehindName ⟨.named x, x⟩ ts
  | _ => none

/-- A name in braces, and the others behind it. -/
def readBehindName (b : ImportBinding) :
    List ImportToken → Option (List ImportBinding × List ImportToken)
  | .mark '\x7d' :: ts => some ([b], ts)
  | .mark ',' :: ts => (readSpecifiers ts).map fun (bs, rest) => (b :: bs, rest)
  | _ => none

end

/-- Names in braces, or one name for all of a module. -/
def readExports : List ImportToken → Option (List ImportBinding × List ImportToken)
  | .mark '\x7b' :: ts => readSpecifiers ts
  | .mark '*' :: .word "as" :: .word y :: ts => some ([⟨.all, y⟩], ts)
  | _ => none

/-- The bindings of a declaration: a name for the default export, others, or both. -/
def readBindings : List ImportToken → Option (List ImportBinding × List ImportToken)
  | .word x :: .mark ',' :: ts =>
    (readExports ts).map fun (bs, rest) => (⟨.default, x⟩ :: bs, rest)
  | .word x :: ts => some ([⟨.default, x⟩], ts)
  | ts => readExports ts

/-- The module at the end of a declaration, behind which nothing but a semicolon stands. -/
def readModule : List ImportToken → Option String
  | [.word "from", .text module] => some module
  | [.word "from", .text module, .mark ';'] => some module
  | _ => none

/-- The declaration that tokens make up. -/
def readDeclaration : List ImportToken → Option ImportDeclaration
  | .word "import" :: ts => do
    let (bindings, rest) ← readBindings ts
    let specifier ← readModule rest
    return ⟨bindings, specifier⟩
  | _ => none

namespace ImportDeclaration

/-- The local names of a declaration. -/
def names (d : ImportDeclaration) : List String := d.bindings.map (·.name)

/-- Every local name can be one, and none is bound twice. -/
def IsSound (d : ImportDeclaration) : Prop := (∀ x ∈ d.names, A.IsBindable x) ∧ d.names.Nodup

instance (d : ImportDeclaration) : Decidable (d.IsSound A) := inferInstanceAs (Decidable (_ ∧ _))

end ImportDeclaration

/-- The declaration that a text is, if it is a single one. -/
def importDeclaration? (s : String) : Option ImportDeclaration :=
  ((importTokens? A s.toList).bind readDeclaration).filter fun d => d.IsSound A

section reading

variable {A} {d : ImportDeclaration}

/-- The names that a declaration binds can be bound. -/
lemma isSound_of_importDeclaration? {s : String} (h : importDeclaration? A s = some d) :
    d.IsSound A := by
  simpa using (Option.filter_eq_some_iff.mp h).2

lemma importDeclaration?_eq {s : String} {ts : List ImportToken}
    (tokens : importTokens? A s.toList = some ts) (read : readDeclaration ts = some d)
    (sound : d.IsSound A) : importDeclaration? A s = some d := by
  rw [importDeclaration?, tokens, Option.bind_some, read]
  simp [sound]

end reading

/-! ### Tokens where they stand -/

section tokens

variable {A} {b : List Char} {rest : List Char}

/-- Blanks in front of a token are passed over. -/
lemma importTokens?_front {c : Char} (blanks : b.all isScriptBlank = true)
    (other : isScriptBlank c = false) (r : List Char) :
    importTokens? A (b ++ c :: r) = (readToken A (c :: r)).bind fun (t, rest) =>
      (importTokens? A rest.1).map (t :: ·) := by
  have front := (takeWhile_append_stops (List.all_eq_true.mp blanks)
    (stops_cons.mpr other : Stops _ (c :: r))).2
  rw [importTokens?]
  split
  · next nothing => exact absurd (front.symm.trans nothing) (by simp)
  · next c' r' same =>
    cases front.symm.trans same
    rfl

lemma importTokens?_cons {c : Char} {r : List Char} {t : ImportToken}
    (blanks : b.all isScriptBlank = true) (other : isScriptBlank c = false)
    (read : ∃ h, readToken A (c :: r) = some (t, ⟨rest, h⟩)) :
    importTokens? A (b ++ c :: r) = (importTokens? A rest).map (t :: ·) := by
  obtain ⟨h, read⟩ := read
  rw [importTokens?_front blanks other, read, Option.bind_some]

lemma importTokens?_nil : importTokens? A [] = some [] := by
  rw [importTokens?]
  rfl

lemma importTokens?_mark {c : Char} (blanks : b.all isScriptBlank = true)
    (mark : c ∈ importMarks) (rest : List Char) :
    importTokens? A (b ++ c :: rest) = (importTokens? A rest).map (.mark c :: ·) := by
  have apart : (importMarks.any fun d => isScriptBlank d || d == '"' || d == '\'') = false := by
    decide
  have apart := List.any_eq_false.mp apart c mark
  simp only [Bool.or_eq_true, beq_iff_eq, not_or, Bool.not_eq_true] at apart
  obtain ⟨⟨other, noQuote⟩, noQuote'⟩ := apart
  refine importTokens?_cons blanks other ⟨by simp, ?_⟩
  rw [readToken, if_neg (not_or.mpr ⟨noQuote, noQuote'⟩), if_pos mark]
  rfl

lemma importTokens?_text {s : List Char} (blanks : b.all isScriptBlank = true)
    (plain : s.all (isPlain '\'') = true) (rest : List Char) :
    importTokens? A (b ++ '\'' :: (s ++ '\'' :: rest)) =
      (importTokens? A rest).map (.text (String.ofList s) :: ·) := by
  obtain ⟨h, read⟩ := readQuoted_plain (List.all_eq_true.mp plain) rest
  refine importTokens?_cons blanks (by decide) ⟨Nat.lt_succ_of_lt h, ?_⟩
  rw [readToken, if_pos (.inr rfl), read]
  rfl

/-- A character that starts an identifier starts nothing else. -/
lemma Alphabet.start_spec {c : Char} (h : A.start c = true) :
    isScriptBlank c = false ∧ ¬(c = '"' ∨ c = '\'') ∧ c ∉ importMarks := by
  have other : ('"' :: '\'' :: importMarks).all (fun d => d.toNat < 128 && !isIdentifierStart d) =
      true := by decide
  have ne {d : Char} (hd : d ∈ '"' :: '\'' :: importMarks) : c ≠ d := by
    rintro rfl
    have mark := List.all_eq_true.mp other c hd
    simp only [Bool.and_eq_true, decide_eq_true_eq, Bool.not_eq_true'] at mark
    rw [A.start_ascii c mark.1, mark.2] at h
    exact absurd h (by decide)
  refine ⟨A.not_blank c (A.part_of_start c h), ?_, fun hc => ne ?_ rfl⟩
  · simp [ne]
  · simp [hc]

lemma importTokens?_word {w : List Char} (blanks : b.all isScriptBlank = true)
    (word : A.isWord w = true) (stop : Stops A.part rest) :
    importTokens? A (b ++ (w ++ rest)) =
      (importTokens? A rest).map (.word (String.ofList w) :: ·) := by
  cases w with
  | nil => exact absurd word (by simp [Alphabet.isWord])
  | cons c cs =>
    simp only [Alphabet.isWord, List.head?_cons, Option.any_some, Bool.and_eq_true,
      List.all_eq_true] at word
    obtain ⟨start, parts⟩ := word
    obtain ⟨other, noQuote, noMark⟩ := Alphabet.start_spec start
    obtain ⟨taken, left⟩ :=
      takeWhile_append_stops (fun d hd => parts d (List.mem_cons_of_mem _ hd)) stop
    rw [List.cons_append]
    refine importTokens?_cons blanks other
      ⟨by simp only [List.length_cons, List.length_append]; omega, ?_⟩
    rw [readToken, if_neg noQuote, if_neg noMark, if_pos start]
    simp only [NoLonger.behind, taken, left]

end tokens

/-! ### Declarations of plain names -/

section declarations

variable {A} {module : String}

lemma Alphabet.stops_part {c : Char} (ascii : c.toNat < 128) (other : isIdentifierPart c = false)
    (rest : List Char) : Stops A.part (c :: rest) :=
  stops_cons.mpr (by rw [A.part_ascii c ascii, other])

/-- Words of ASCII letters are words. -/
lemma Alphabet.isWord_of_ascii {w : List Char} (ascii : w.all (fun c => c.toNat < 128) = true)
    (word : Alphabet.ascii.isWord w = true) : A.isWord w = true := by
  cases w with
  | nil => exact word
  | cons c cs =>
    simp only [Alphabet.isWord, List.head?_cons, Option.any_some, Bool.and_eq_true,
      List.all_eq_true] at word ⊢
    simp only [List.all_eq_true, decide_eq_true_eq] at ascii
    refine ⟨?_, fun d hd => ?_⟩
    · rw [A.start_ascii c (ascii c List.mem_cons_self)]
      exact word.1
    · rw [A.part_ascii d (ascii d hd)]
      exact word.2 d hd

lemma blank_space : [' '].all isScriptBlank = true := by decide

lemma Alphabet.stops_space (rest : List Char) : Stops A.part ([' '] ++ rest) :=
  Alphabet.stops_part (by decide) (by decide) rest

/-- The end of a declaration. -/
lemma importTokens?_from (plain : module.toList.all (isPlain '\'') = true) :
    importTokens? A (" from '" ++ module ++ "';").toList =
      some [.word "from", .text module, .mark ';'] := by
  have word : A.isWord "from".toList = true := Alphabet.isWord_of_ascii (by decide) (by decide)
  have spelled : (" from '" ++ module ++ "';").toList =
      [' '] ++ ("from".toList ++ ([' '] ++ '\'' :: (module.toList ++ '\'' :: ([] ++ [';'])))) := by
    simp
  rw [spelled, importTokens?_word blank_space word (Alphabet.stops_space _),
    importTokens?_text blank_space plain, importTokens?_mark (by simp) (by decide),
    importTokens?_nil]
  simp

/-- The beginning of a declaration. -/
lemma importTokens?_import (rest : List Char) :
    importTokens? A ("import".toList ++ ([' '] ++ rest)) =
      (importTokens? A ([' '] ++ rest)).map (.word "import" :: ·) := by
  have word : A.isWord "import".toList = true :=
    Alphabet.isWord_of_ascii (by decide) (by decide)
  exact importTokens?_word (b := []) (by simp) word (Alphabet.stops_space rest)

/-- The tokens of names with commas between them. -/
def nameTokens (name : String) (names : List String) : List ImportToken :=
  .word name :: names.flatMap fun x => [.mark ',', .word x]

lemma importTokens?_names {name : String} {names : List String}
    (words : ∀ x ∈ name :: names, A.isWord x.toList = true) {rest : List Char}
    (stop : Stops A.part rest) :
    importTokens? A ([' '] ++ (name.toList ++ (joinedBehind ", " names ++ rest))) =
      (importTokens? A rest).map (nameTokens name names ++ ·) := by
  induction names generalizing name with
  | nil =>
    have word := words name List.mem_cons_self
    rw [joinedBehind_nil, List.nil_append, importTokens?_word blank_space word stop,
      String.ofList_toList]
    rfl
  | cons x names ih =>
    have word := words name List.mem_cons_self
    have behind := ih fun y hy => words y (List.mem_cons_of_mem _ hy)
    rw [joinedBehind_comma_cons,
      importTokens?_word blank_space word (Alphabet.stops_part (by decide) (by decide) _),
      ← List.nil_append (',' :: _), importTokens?_mark (by simp) (by decide), behind,
      String.ofList_toList, Option.map_map, Option.map_map]
    rfl

/-- A name under which it is exported. -/
def ImportBinding.plain (name : String) : ImportBinding := ⟨.named name, name⟩

lemma readSpecifiers_comma (x : String) (ts : List ImportToken) :
    readSpecifiers (.word x :: .mark ',' :: ts) =
      (readSpecifiers ts).map fun (bs, rest) => (.plain x :: bs, rest) := by
  rw [readSpecifiers, readBehindName]
  · rfl
  · simp

lemma readSpecifiers_nameTokens (name : String) (names : List String) (ts : List ImportToken) :
    readSpecifiers (nameTokens name names ++ .mark '\x7d' :: ts) =
      some ((name :: names).map .plain, ts) := by
  induction names generalizing name with
  | nil => simp [nameTokens, readSpecifiers, readBehindName, ImportBinding.plain]
  | cons x names ih =>
    have comma : nameTokens name (x :: names) = .word name :: .mark ',' :: nameTokens x names := rfl
    rw [comma, List.cons_append, List.cons_append, readSpecifiers_comma, ih x]
    rfl

/-- An import of plain names is a declaration that binds these names. -/
lemma importDeclaration?_importNamed {name : String} {names : List String}
    (bindable : ∀ x ∈ name :: names, A.IsBindable x) (distinct : (name :: names).Nodup)
    (plain : module.toList.all (isPlain '\'') = true) :
    importDeclaration? A (Mapper.importNamed (", ".intercalate (name :: names)) module) =
      some ⟨(name :: names).map .plain, module⟩ := by
  have words : ∀ x ∈ name :: names, A.isWord x.toList = true := fun x hx => (bindable x hx).1
  have spelled : (Mapper.importNamed (", ".intercalate (name :: names)) module).toList =
      "import".toList ++ ([' '] ++ '\x7b' :: ([' '] ++ (name.toList ++ (joinedBehind ", " names
        ++ ([' '] ++ '\x7d' :: (" from '" ++ module ++ "';").toList))))) := by
    simp only [Mapper.importNamed, String.toList_append, toList_intercalate_cons]
    simp
  have tokens : importTokens? A (Mapper.importNamed (", ".intercalate (name :: names)) module).toList
      = some (.word "import" :: .mark '\x7b' :: (nameTokens name names
        ++ .mark '\x7d' :: [.word "from", .text module, .mark ';'])) := by
    rw [spelled, importTokens?_import, importTokens?_mark blank_space (by decide),
      importTokens?_names words (Alphabet.stops_space _),
      importTokens?_mark blank_space (by decide), importTokens?_from plain]
    rfl
  have names_eq : ((name :: names).map ImportBinding.plain).map (·.name) = name :: names := by
    rw [List.map_map]
    exact List.map_id _
  refine importDeclaration?_eq tokens ?_ ?_
  · rw [readDeclaration, readBindings, readExports, readSpecifiers_nameTokens]
    · rfl
    · simp
    · simp
  · rw [ImportDeclaration.IsSound, ImportDeclaration.names, names_eq]
    exact ⟨bindable, distinct⟩

/-- An import of the default export is a declaration that binds its name. -/
lemma importDeclaration?_importDefault {name : String} (bindable : A.IsBindable name)
    (plain : module.toList.all (isPlain '\'') = true) :
    importDeclaration? A (Mapper.importDefault name module) = some ⟨[⟨.default, name⟩], module⟩ := by
  have spelled : (Mapper.importDefault name module).toList =
      "import".toList ++ ([' '] ++ (name.toList ++ (" from '" ++ module ++ "';").toList)) := by
    simp [Mapper.importDefault]
  have stop : Stops A.part (" from '" ++ module ++ "';").toList := by
    rw [String.append_assoc, String.toList_append]
    exact Alphabet.stops_part (by decide) (by decide) _
  have tokens : importTokens? A (Mapper.importDefault name module).toList =
      some [.word "import", .word name, .word "from", .text module, .mark ';'] := by
    rw [spelled, importTokens?_import, importTokens?_word blank_space bindable.1 stop,
      importTokens?_from plain]
    simp
  refine importDeclaration?_eq tokens ?_ ?_
  · rw [readDeclaration, readBindings]
    · rfl
    · simp
  · simpa [ImportDeclaration.IsSound, ImportDeclaration.names] using bindable

end declarations

end TypeScript

end OperationHooks
