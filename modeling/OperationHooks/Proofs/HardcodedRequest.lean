import OperationHooks.Proofs.Text.Joining
import OperationHooks.Proofs.TypeScript.ObjectLiteral

/-!
# The request of a hardcoded fetch

The helper of a hardcoded fetch is a frame around one object literal. Read as such, the literal has
the method as its first entry, then the other request options in the order in which they are
configured, and the text of the query as its last. Names and values are those that are configured,
but for one slip: a line feed behind an identifier is no part of the name that is read.
-/

namespace OperationHooks

open TypeScript

/-! ### The helper around the literal -/

/-- The line of the body in a request. -/
def bodyLine : String := "      body: JSON.stringify(\x7b query, variables \x7d),"

/-- The object literal that a hardcoded fetch passes on. -/
def requestLiteral (params : List (String × Json)) : String :=
  "\n".intercalate ("\x7b" ::
    ((Strategy.requestOptions params).map Strategy.optionLine ++ [bodyLine, "    \x7d"]))

/-- The helper up to the object literal: the last thing in front of it is the endpoint. -/
def fetchOpening (endpoint : String) : String :=
  "\n".intercalate (Strategy.helperLines ""
    ["  return async (): Promise<TData> => \x7b",
      "    const res = await fetch(" ++ Strategy.endpointExpression endpoint ++ ", "])

/-- The helper behind the object literal, which is the last argument of its call. -/
def fetchClosing : String := "\n".intercalate (");" :: Strategy.responseLines.drop 2)

/-- The helper of a hardcoded fetch is the literal in its frame. -/
lemma helper?_hardcoded (endpoint : String) (params : List (String × Json)) :
    (Strategy.hardcoded endpoint params).helper? =
      some (fetchOpening endpoint ++ requestLiteral params ++ fetchClosing) := by
  let call := "    const res = await fetch(" ++ Strategy.endpointExpression endpoint ++ ", "
  let above := Strategy.helperLines "" ["  return async (): Promise<TData> => \x7b"]
  let options := (Strategy.requestOptions params).map Strategy.optionLine
  let below := Strategy.responseLines.drop 2
  -- the lines are cut apart in the one that opens the literal and in the one that closes it
  have front := intercalate_cut "\n" call "\x7b" above
    (options ++ [bodyLine] ++ ("    \x7d" ++ ");") :: below)
  have back := intercalate_cut "\n" "    \x7d" ");" ("\x7b" :: (options ++ [bodyLine])) below
  have opens : call ++ "\x7b" =
      "    const res = await fetch(" ++ Strategy.endpointExpression endpoint ++ ", \x7b" := by
    simp only [call, String.append_assoc]
    rfl
  have closes : bodyLine :: ("    \x7d" ++ ");") :: below = Strategy.responseLines := by decide
  have whole : requestLiteral params =
      "\n".intercalate ("\x7b" :: (options ++ [bodyLine]) ++ ["    \x7d"]) := by
    simp [requestLiteral, options]
  rw [List.cons_append, ← whole] at back
  rw [back, opens, List.append_assoc, List.singleton_append, closes, ← String.append_assoc] at front
  exact congrArg some front

/-! ### The entries -/

/-- The entries of a request with its options under given names: the method first, which is `POST`
unless it is configured, and the text of the query last. -/
def requestEntries (named : String → String) (params : List (String × Json)) :
    List (String × EntryValue) :=
  ("method", .json ((lookupMember "method" params).getD (.str "POST")))
    :: (params.filter (·.1 ≠ "method")).map (fun m => (named m.1, .json m.2))
    ++ [("body", .stringifiedQuery)]

/-- What stands in front of a request option. -/
def optionMargin : List Char := ['\n', ' ', ' ', ' ', ' ', ' ', ' ']

lemma toList_optionLine (key : String) (v : Json) (rest : List Char) :
    '\n' :: ((Strategy.optionLine (key, v)).toList ++ rest) =
      optionMargin ++ ((objectKey key).toList ++ ':' :: ' ' :: (v.text.toList ++ ',' :: rest)) := by
  simp [Strategy.optionLine, Strategy.optionText, optionMargin]

lemma toList_bodyLine (rest : List Char) : '\n' :: (bodyLine.toList ++ rest) =
    optionMargin ++ ((objectKey "body").toList ++ ':' :: ' ' :: (stringifiedQuery ++ ',' :: rest)) := by
  have line : '\n' :: bodyLine.toList =
      optionMargin ++ ((objectKey "body").toList ++ ':' :: ' ' :: (stringifiedQuery ++ [','])) := by
    decide
  rw [← List.cons_append, line]
  simp

/-- The last lines of a request: the text of the query and the closing brace. -/
lemma readEntries_body (rest : List Char) :
    ∃ h, readEntries (joinedBehind "\n" [bodyLine, "    \x7d"] ++ rest) =
      some ([("body", .stringifiedQuery)], ⟨rest, h⟩) := by
  have blanks : ['\n', ' ', ' ', ' ', ' '].all Json.isBlank = true := by decide
  obtain ⟨h, close⟩ := Json.readMark_self '\x7d' blanks (by decide) rest
  have nothing : ∃ h, readEntries (['\n', ' ', ' ', ' ', ' '] ++ '\x7d' :: rest) =
      some ([], ⟨rest, h⟩) := by
    refine ⟨h, ?_⟩
    rw [readEntries, close]
  have read := readEntries_cons "body" (b := optionMargin) (by decide)
    (readEntryValue_stringifiedQuery _) nothing
  rw [← toList_bodyLine] at read
  rw [joinedBehind_cons, joinedBehind_cons, joinedBehind_nil, List.append_nil, List.append_assoc,
    List.append_assoc, List.append_assoc]
  exact read

/-- The lines of the options are read one after the other. -/
lemma readEntries_options {options : List (String × Json)} (values : ∀ m ∈ options, m.2.FloatFree)
    (rest : List Char) :
    ∃ h, readEntries (joinedBehind "\n" (options.map Strategy.optionLine ++ [bodyLine, "    \x7d"])
        ++ rest) =
      some (options.map (fun m => (denotedKey m.1, .json m.2)) ++ [("body", .stringifiedQuery)],
        ⟨rest, h⟩) := by
  induction options with
  | nil => exact readEntries_body rest
  | cons m options ih =>
    obtain ⟨key, v⟩ := m
    let below := joinedBehind "\n" (options.map Strategy.optionLine ++ [bodyLine, "    \x7d"]) ++ rest
    have comma : Stops Json.isNumberPart (',' :: below) := stops_cons.mpr (by decide)
    have value := readEntryValue_json (values (key, v) List.mem_cons_self) comma
    have behind := ih fun m hm => values m (List.mem_cons_of_mem _ hm)
    have read := readEntries_cons key (b := optionMargin) (by decide) value behind
    rw [← toList_optionLine] at read
    rw [List.map_cons, List.cons_append, joinedBehind_cons, List.append_assoc, List.append_assoc]
    exact read

section literal

variable {params : List (String × Json)} (distinct : (params.map (·.1)).Nodup)
  (values : ∀ m ∈ params, m.2.FloatFree)

include distinct in
/-- The options of a request: the method in front of the others, each in its order. -/
lemma requestOptions_eq : Strategy.requestOptions params =
    ("method", (lookupMember "method" params).getD (.str "POST"))
      :: params.filter (·.1 ≠ "method") :=
  collectMembers_cons distinct

include distinct values in
/-- The literal of a request, read up to its closing brace. -/
lemma readObject_requestLiteral (rest : List Char) :
    readObject ((requestLiteral params).toList ++ rest) =
      some (requestEntries denotedKey params, rest) := by
  have free : ∀ m ∈ Strategy.requestOptions params, m.2.FloatFree := by
    rw [requestOptions_eq distinct]
    intro m hm
    rcases List.mem_cons.mp hm with rfl | hm
    · dsimp only
      cases h : lookupMember "method" params with
      | none => simp [Json.FloatFree]
      | some v => exact values _ (mem_of_lookupMember h)
    · exact values m (List.mem_filter.mp hm).1
  obtain ⟨h, read⟩ := readEntries_options free rest
  obtain ⟨h', brace⟩ := Json.readMark_cons '\x7b' (by decide) (joinedBehind "\n"
    ((Strategy.requestOptions params).map Strategy.optionLine ++ [bodyLine, "    \x7d"]) ++ rest)
  have method : denotedKey "method" = "method" := by decide
  have entries : (Strategy.requestOptions params).map (fun m => (denotedKey m.1, EntryValue.json m.2))
      ++ [("body", .stringifiedQuery)] = requestEntries denotedKey params := by
    rw [requestOptions_eq distinct, List.map_cons, method]
    rfl
  have front : "\x7b".toList = ['\x7b'] := rfl
  rw [requestLiteral, toList_intercalate_cons, front, List.singleton_append, List.cons_append,
    readObject, brace, Option.bind_eq_bind, Option.bind_some]
  dsimp only
  rw [read]
  exact congrArg (fun entries => some (entries, rest)) entries

/-- The names that are read are those that are configured, unless one of these is torn. -/
lemma requestEntries_denotedKey_iff : requestEntries denotedKey params = requestEntries id params ↔
    ∀ m ∈ params, ¬IsTornKey m.1 := by
  have method : ¬IsTornKey "method" := denotedKey_eq_iff.mp (by decide)
  have named : requestEntries denotedKey params = requestEntries id params ↔
      ∀ m ∈ params.filter (·.1 ≠ "method"), denotedKey m.1 = m.1 := by
    simp only [requestEntries, List.cons_append, List.cons.injEq, true_and,
      List.append_cancel_right_eq, List.map_inj_left, Prod.mk.injEq, and_true, id_eq]
  rw [named]
  constructor
  · intro h m hm
    by_cases first : m.1 = "method"
    · exact first ▸ method
    · exact denotedKey_eq_iff.mp (h m (List.mem_filter.mpr ⟨hm, by simpa using first⟩))
  · intro h m hm
    exact denotedKey_eq_iff.mpr (h m (List.mem_filter.mp hm).1)

end literal

/-- The helper of a hardcoded fetch passes on one object literal behind the endpoint. For options
with different names and values without floats the literal has these entries in this order: the
method, which is `POST` unless it is configured, the other options as they are configured, and the
text of the query. Each value is read back as it was, and each name as the one that its key denotes.
These are the configured names if and only if none of them is an identifier with a line feed
behind it. -/
theorem hardcoded_request_read (endpoint : String) {params : List (String × Json)}
    (distinct : (params.map (·.1)).Nodup) (values : ∀ m ∈ params, m.2.FloatFree) :
    (Strategy.hardcoded endpoint params).helper? =
        some (fetchOpening endpoint ++ requestLiteral params ++ fetchClosing) ∧
      (∀ rest, readObject ((requestLiteral params).toList ++ rest) =
        some (requestEntries denotedKey params, rest)) ∧
      (requestEntries denotedKey params = requestEntries id params ↔
        ∀ m ∈ params, ¬IsTornKey m.1) :=
  ⟨helper?_hardcoded endpoint params, readObject_requestLiteral distinct values,
    requestEntries_denotedKey_iff⟩

/-- Options behind and before the method, with names that need quotes. -/
theorem hardcoded_request_read_quoted :
    let headers : Json := .obj [("x-\"a\"", .arr [.null, .int (-10)])]
    let params : List (String × Json) := [("", headers), ("method", .str "PUT"), ("\n", .bool true)]
    (params.map (·.1)).Nodup ∧ (∀ m ∈ params, m.2.FloatFree) ∧
      readObject (requestLiteral params).toList =
        some ([("method", .json (.str "PUT")), ("", .json headers), ("\n", .json (.bool true)),
          ("body", .stringifiedQuery)], []) := by
  intro headers params
  have distinct : (params.map (·.1)).Nodup := by decide
  have values : ∀ m ∈ params, m.2.FloatFree := by
    simp [params, headers, Json.FloatFree, Json.AllFloatFree, Json.MembersFloatFree]
  obtain ⟨-, read, faithful⟩ := hardcoded_request_read "API_URL" distinct values
  have whole : ∀ m ∈ params, ¬IsTornKey m.1 := by
    intro m hm
    have kept : ∀ m ∈ params, denotedKey m.1 = m.1 := by decide
    exact denotedKey_eq_iff.mp (kept m hm)
  have read := read []
  rw [List.append_nil, faithful.mpr whole] at read
  exact ⟨distinct, values, read⟩

/-- An option that is not the method sends another method. -/
theorem hardcoded_request_torn :
    let params : List (String × Json) := [("method\n", .str "GET")]
    readObject (requestLiteral params).toList =
        some ([("method", .json (.str "POST")), ("method", .json (.str "GET")),
          ("body", .stringifiedQuery)], []) ∧
      requestEntries denotedKey params ≠ requestEntries id params := by
  intro params
  have values : ∀ m ∈ params, m.2.FloatFree := by simp [params, Json.FloatFree]
  have read := @readObject_requestLiteral params (by decide) values []
  have torn : IsTornKey "method\n" := ⟨"method".toList, by decide, by decide⟩
  rw [List.append_nil] at read
  refine ⟨read, fun same => ?_⟩
  exact requestEntries_denotedKey_iff.mp same _ List.mem_cons_self torn

end OperationHooks
