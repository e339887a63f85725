import OperationHooks.Hooks.Strategy
import OperationHooks.Proofs.Json.Members
import OperationHooks.Proofs.TypeScript.Quoted

/-!
# Reading object literals

How the object literal of a request is read: as a list of entries in the order of the source, each
with the name that its key denotes and the value that its expression has. The entries of a hardcoded
fetch are the method, the other request options as they are configured and the body, save that a
key loses a line feed that stands behind an identifier.
-/

namespace OperationHooks

namespace TypeScript

/-! ### Entries -/

/-- What an entry of a request is given: a constant, or the text of the query and its variables. -/
inductive EntryValue where
  | json (v : Json)
  | stringifiedQuery

/-- The expression for the text of the query and its variables. -/
def stringifiedQuery : List Char := "JSON.stringify(\x7b query, variables \x7d)".toList

/-- The name that a key denotes, and the text behind it. A key is an identifier or a string. -/
def readPropertyName (cs : List Char) : Option (String × Shorter cs) :=
  match cs with
  | [] => none
  | c :: r =>
    if c = '"' ∨ c = '\'' then
      (readQuoted c r).map fun (s, r₁) => (String.ofList s, r₁.behind c)
    else if isIdentifierStart c then
      some (String.ofList (c :: r.takeWhile isIdentifierPart),
        NoLonger.behind c ⟨r.dropWhile isIdentifierPart, length_dropWhile_le _ r⟩)
    else none

/-- The value of an entry, and the text behind it. -/
def readEntryValue (cs : List Char) : Option (EntryValue × Shorter cs) :=
  let ⟨r, h⟩ := Json.dropBlanks cs
  match Json.dropWord stringifiedQuery r with
  | some ⟨r₁, h₁⟩ =>
    have : 0 < stringifiedQuery.length := by decide
    some (.stringifiedQuery, ⟨r₁, by omega⟩)
  | none => (Json.readValue none cs).toOption.map fun (v, r₁) => (.json v, r₁)

/-- The entries of an object literal from the text behind its opening brace, and the text behind
the closing one. A comma may stand behind the last entry. -/
def readEntries (cs : List Char) : Option (List (String × EntryValue) × Shorter cs) :=
  match Json.readMark '\x7d' cs with
  | some r => some ([], r)
  | none => do
    let ⟨r, h⟩ := Json.dropBlanks cs
    let (name, ⟨r₁, h₁⟩) ← readPropertyName r
    let ⟨r₂, h₂⟩ ← Json.readMark ':' r₁
    let (value, ⟨r₃, h₃⟩) ← readEntryValue r₂
    match Json.readMark ',' r₃ with
    | some ⟨r₄, h₄⟩ =>
      let (entries, ⟨r₅, h₅⟩) ← readEntries r₄
      return ((name, value) :: entries, ⟨r₅, by omega⟩)
    | none =>
      let ⟨r₄, h₄⟩ ← Json.readMark '\x7d' r₃
      return ([(name, value)], ⟨r₄, by omega⟩)
termination_by cs.length
decreasing_by omega

/-- The entries of an object literal, and the text behind it. -/
def readObject (cs : List Char) : Option (List (String × EntryValue) × List Char) := do
  let ⟨r, _⟩ ← Json.readMark '\x7b' cs
  let (entries, ⟨rest, _⟩) ← readEntries r
  return (entries, rest)

/-! ### Keys -/

/-- An identifier with a line feed behind it. -/
def IsTornKey (key : String) : Prop :=
  ∃ name, isIdentifier name = true ∧ key.toList = name ++ ['\n']

/-- The name that a key denotes as it is written. -/
def denotedKey (key : String) : String :=
  if isBareKey key.toList then String.ofList (key.toList.takeWhile isIdentifierPart) else key

lemma isIdentifierPart_of_isIdentifier {name : List Char} (h : isIdentifier name = true) :
    ∀ c ∈ name, isIdentifierPart c = true := by
  cases name with
  | nil => exact absurd h (by decide)
  | cons c cs =>
    simp only [isIdentifier, Bool.and_eq_true, List.all_eq_true] at h
    intro d hd
    rcases List.mem_cons.mp hd with rfl | hd
    · simp [isIdentifierPart, h.1]
    · exact h.2 d hd

/-- A key that stands without quotes is an identifier, perhaps with a line feed behind it. -/
lemma isBareKey_iff {cs : List Char} :
    isBareKey cs = true ↔ ∃ name w, isIdentifier name = true ∧ (w = [] ∨ w = ['\n']) ∧
      cs = name ++ w := by
  simp only [isBareKey, Bool.or_eq_true, Bool.and_eq_true, beq_iff_eq]
  constructor
  · rintro (name | ⟨last, name⟩)
    · exact ⟨cs, [], name, .inl rfl, (List.append_nil cs).symm⟩
    · exact ⟨cs.dropLast, ['\n'], name, .inr rfl,
        (List.dropLast_append_getLast? '\n' last).symm⟩
  · rintro ⟨name, w, valid, rfl | rfl, rfl⟩
    · rw [List.append_nil]
      exact .inl valid
    · rw [List.getLast?_concat, List.dropLast_concat]
      exact .inr ⟨rfl, valid⟩

lemma takeWhile_bareKey {name w rest : List Char} (valid : isIdentifier name = true)
    (feed : w = [] ∨ w = ['\n']) (stop : Stops isIdentifierPart rest) :
    (name ++ w ++ rest).takeWhile isIdentifierPart = name ∧
      (name ++ w ++ rest).dropWhile isIdentifierPart = w ++ rest := by
  have parts := isIdentifierPart_of_isIdentifier valid
  have stops : Stops isIdentifierPart (w ++ rest) := by
    rcases feed with rfl | rfl
    · exact stop
    · exact stops_cons.mpr (by decide)
  rw [List.append_assoc]
  exact takeWhile_append_stops parts stops

/-- A key denotes itself, unless a line feed stands behind an identifier. -/
lemma denotedKey_eq_iff {key : String} : denotedKey key = key ↔ ¬IsTornKey key := by
  rw [denotedKey]
  by_cases bare : isBareKey key.toList = true
  · obtain ⟨name, w, valid, feed, spelled⟩ := isBareKey_iff.mp bare
    have taken := (takeWhile_bareKey valid feed (stops_nil _)).1
    rw [List.append_nil, ← spelled] at taken
    rw [if_pos bare, taken]
    rcases feed with rfl | rfl
    · rw [List.append_nil] at spelled
      rw [← spelled, String.ofList_toList]
      refine iff_of_true rfl ?_
      rintro ⟨name', valid', spelled'⟩
      have feed : '\n' ∈ name := by
        rw [← spelled, spelled']
        simp
      exact absurd (isIdentifierPart_of_isIdentifier valid '\n' feed) (by decide)
    · refine iff_of_false ?_ (not_not.mpr ⟨name, valid, spelled⟩)
      intro same
      have lengths := congrArg (fun s : String => s.toList.length) same
      simp [spelled] at lengths
  · rw [if_neg bare]
    refine iff_of_true rfl ?_
    rintro ⟨name, valid, spelled⟩
    exact bare (isBareKey_iff.mpr ⟨name, ['\n'], valid, .inr rfl, spelled⟩)

lemma isIdentifierStart_spec {c : Char} (h : isIdentifierStart c = true) :
    ¬(c = '"' ∨ c = '\'') ∧ Json.isBlank c = false ∧ c ≠ '\x7d' := by
  have other : ['"', '\'', '\x7d', ' ', '\t', '\n', '\r'].any isIdentifierStart = false := by
    decide
  have ne {d : Char} (hd : d ∈ ['"', '\'', '\x7d', ' ', '\t', '\n', '\r']) : c ≠ d := by
    rintro rfl
    exact List.any_eq_false.mp other c hd h
  simp [Json.isBlank, ne]

lemma objectKey_of_bare {key : String} (bare : isBareKey key.toList = true) :
    objectKey key = key := if_pos bare

lemma toList_objectKey_of_not_bare {key : String} (h : ¬isBareKey key.toList = true) :
    (objectKey key).toList = '"' :: (key.toList.flatMap Json.escapeChar ++ ['"']) := by
  rw [objectKey, if_neg h]
  simp [Json.stringText]

/-- A key starts neither with a blank nor with the end of the object. -/
lemma exists_objectKey_cons (key : String) : ∃ c r, (objectKey key).toList = c :: r ∧
    Json.isBlank c = false ∧ c ≠ '\x7d' := by
  by_cases bare : isBareKey key.toList = true
  · obtain ⟨name, w, valid, -, spelled⟩ := isBareKey_iff.mp bare
    cases name with
    | nil => exact absurd valid (by decide)
    | cons c cs =>
      simp only [isIdentifier, Bool.and_eq_true] at valid
      rw [objectKey_of_bare bare]
      exact ⟨c, cs ++ w, spelled, (isIdentifierStart_spec valid.1).2⟩
  · exact ⟨'"', _, toList_objectKey_of_not_bare bare, by decide, by decide⟩

lemma readPropertyName_identifier {name w : List Char} (valid : isIdentifier name = true)
    (feed : w = [] ∨ w = ['\n']) (rest : List Char) :
    ∃ h, readPropertyName (name ++ w ++ ':' :: rest) =
      some (String.ofList name, ⟨w ++ ':' :: rest, h⟩) := by
  have stop : Stops isIdentifierPart (':' :: rest) := stops_cons.mpr (by decide)
  obtain ⟨taken, left⟩ := takeWhile_bareKey valid feed stop
  cases name with
  | nil => exact absurd valid (by decide)
  | cons c cs =>
    simp only [isIdentifier, Bool.and_eq_true] at valid
    have part : isIdentifierPart c = true := by simp [isIdentifierPart, valid.1]
    simp only [List.cons_append, List.takeWhile_cons_of_pos part,
      List.dropWhile_cons_of_pos part, List.cons.injEq, true_and] at taken left
    simp only [List.cons_append]
    refine ⟨by simp only [List.length_cons, List.length_append]; omega, ?_⟩
    rw [readPropertyName, if_neg (isIdentifierStart_spec valid.1).1, if_pos valid.1]
    simp only [NoLonger.behind, taken, left]

lemma readPropertyName_string (s rest : List Char) :
    ∃ h, readPropertyName ('"' :: (s.flatMap Json.escapeChar ++ '"' :: rest)) =
      some (String.ofList s, ⟨rest, h⟩) := by
  obtain ⟨h, read⟩ := readQuoted_escaped s rest
  refine ⟨Nat.lt_succ_of_lt h, ?_⟩
  rw [readPropertyName, if_pos (.inl rfl), read]
  rfl

/-- A key is read as the name that it denotes, up to blanks in front of the colon. -/
lemma readPropertyName_objectKey (key : String) (rest : List Char) :
    ∃ w, w.all Json.isBlank = true ∧
      ∃ h, readPropertyName ((objectKey key).toList ++ ':' :: rest) =
        some (denotedKey key, ⟨w ++ ':' :: rest, h⟩) := by
  by_cases bare : isBareKey key.toList = true
  · obtain ⟨name, w, valid, feed, spelled⟩ := isBareKey_iff.mp bare
    have whole := (takeWhile_bareKey valid feed (stops_nil _)).1
    rw [List.append_nil] at whole
    have denoted : denotedKey key = String.ofList name := by
      rw [denotedKey, if_pos bare, spelled, whole]
    rw [objectKey_of_bare bare, denoted, spelled]
    -- a line feed behind the identifier is left as a blank in front of the colon
    refine ⟨w, ?_, readPropertyName_identifier valid feed rest⟩
    rcases feed with rfl | rfl
    · simp
    · simp [Json.isBlank]
  · have denoted : denotedKey key = String.ofList key.toList := by
      rw [denotedKey, if_neg bare, String.ofList_toList]
    have read := readPropertyName_string key.toList (':' :: rest)
    rw [toList_objectKey_of_not_bare bare, denoted, List.cons_append, List.append_assoc]
    exact ⟨[], by simp, read⟩

/-! ### Entries where they stand -/

lemma dropWord_of_ne {w c : Char} (ne : w ≠ c) (ws r : List Char) :
    Json.dropWord (w :: ws) (c :: r) = none := by
  rw [Json.dropWord, if_neg ne]

lemma dropWord_append (word r : List Char) :
    ∃ h, Json.dropWord word (word ++ r) = some ⟨r, h⟩ := by
  induction word with
  | nil => exact ⟨by simp, rfl⟩
  | cons w ws ih =>
    rw [List.cons_append]
    obtain ⟨h, dropped⟩ := ih
    refine ⟨by simp only [List.length_cons]; omega, ?_⟩
    rw [Json.dropWord, if_pos rfl, dropped]
    rfl

lemma readEntryValue_json {v : Json} (h : v.FloatFree) {rest : List Char}
    (stop : Stops Json.isNumberPart rest) :
    ∃ h, readEntryValue (' ' :: (v.text.toList ++ rest)) = some (.json v, ⟨rest, h⟩) := by
  have read := Json.readValue_text h v.fits_none (b := [' ']) (by decide) stop
  obtain ⟨c, r, spelled, starts⟩ := Json.exists_text_cons h
  have dropped := Json.dropBlanks_blanks (b := [' ']) (by decide)
    (Json.startsValue_spec starts).1 (r ++ rest)
  have other : 'J' ≠ c := by
    rintro rfl
    exact absurd starts (by decide)
  rw [List.singleton_append] at read dropped
  rw [spelled, List.cons_append] at read ⊢
  obtain ⟨shorter, read⟩ := read
  obtain ⟨h', dropped⟩ := dropped
  have noWord : Json.dropWord stringifiedQuery (c :: (r ++ rest)) = none :=
    dropWord_of_ne other _ _
  refine ⟨shorter, ?_⟩
  rw [readEntryValue, dropped]
  simp only [noWord, read]
  rfl

lemma readEntryValue_stringifiedQuery (rest : List Char) :
    ∃ h, readEntryValue (' ' :: (stringifiedQuery ++ rest)) =
      some (.stringifiedQuery, ⟨rest, h⟩) := by
  have front : stringifiedQuery = 'J' :: stringifiedQuery.tail := by decide
  have dropped := Json.dropBlanks_blanks (b := [' ']) (c := 'J') (by decide) (by decide)
    (stringifiedQuery.tail ++ rest)
  rw [List.singleton_append, ← List.cons_append, ← front] at dropped
  obtain ⟨h, dropped⟩ := dropped
  obtain ⟨h', word⟩ := dropWord_append stringifiedQuery rest
  refine ⟨by simp only [List.length_cons, List.length_append]; omega, ?_⟩
  rw [readEntryValue, dropped]
  simp only [word]

/-- An entry in front of others. -/
lemma readEntries_cons (key : String) {b cs r rest : List Char} {value : EntryValue}
    {entries : List (String × EntryValue)} (blanks : b.all Json.isBlank = true)
    (read : ∃ h, readEntryValue cs = some (value, ⟨',' :: r, h⟩))
    (behind : ∃ h, readEntries r = some (entries, ⟨rest, h⟩)) :
    ∃ h, readEntries (b ++ ((objectKey key).toList ++ ':' :: cs)) =
      some ((denotedKey key, value) :: entries, ⟨rest, h⟩) := by
  obtain ⟨w, hw, name⟩ := readPropertyName_objectKey key cs
  obtain ⟨h₂, colon⟩ := Json.readMark_self ':' hw (by decide) cs
  obtain ⟨h₃, read⟩ := read
  obtain ⟨h₄, comma⟩ := Json.readMark_cons ',' (by decide) r
  obtain ⟨h₅, behind⟩ := behind
  obtain ⟨c, k, spelled, noBlank, notEnd⟩ := exists_objectKey_cons key
  rw [spelled, List.cons_append] at name ⊢
  obtain ⟨h₁, name⟩ := name
  obtain ⟨h₀, dropped⟩ := Json.dropBlanks_blanks blanks noBlank (k ++ ':' :: cs)
  refine ⟨by omega, ?_⟩
  rw [readEntries, Json.readMark_of_ne blanks noBlank notEnd, dropped]
  simp only [name, colon, read, comma, behind, Option.bind_eq_bind, Option.bind_some]
  rfl

end TypeScript

end OperationHooks
