import OperationHooks.Proofs.GraphQL.Spelling

/-!
# Printed definitions are made of tokens

Whatever is printed for an operation or a fragment is spelled: by induction on values, types and
selections, with the layout of lists and lines as the steps.
-/

namespace OperationHooks

variable {q : List Char → Prop} {s t u : String}

/-! ### Layout -/

lemma indentRest_eq_moveLines (cs : List Char) :
    indentRest [' ', ' '] cs = moveLines (.all 2) cs := by
  induction cs with
  | nil => rfl
  | cons c cs ih =>
    rw [indentRest] at ih ⊢
    rw [List.flatMap_cons, ih]
    by_cases hc : c = '\n'
    · have blanks : (Margin.all 2).before cs = [' ', ' '] := by
        cases cs with
        | nil => rfl
        | cons d cs => simp [Margin.before, Margin.all]
      rw [if_pos hc, hc, moveLines_newline, blanks]
      rfl
    · rw [if_neg hc, moveLines_cons _ hc]
      rfl

lemma spelled_moveLines (m : Margin) (h : Spelled Parting s) :
    Spelled LineTail (String.ofList (moveLines m s.toList)) := by
  obtain ⟨ts, ht⟩ := h.exists_tokens
  refine ⟨?_, ts, fun tail line => ?_⟩
  · rw [String.toList_ofList]
    intro hr
    rcases mem_moveLines m hr with hr | hr
    · exact absurd hr (by decide)
    · exact h.no_return hr
  · rw [String.toList_ofList]
    exact tokens?_moveLines m h.no_return line ht

lemma spelled_indent (h : Spelled Parting s) : Spelled LineTail (indent s) := by
  rw [indent]
  split
  · exact .empty
  · rw [indentRest_eq_moveLines]
    exact Spelled.free_append (Marks.spelled (by decide)) (spelled_moveLines _ h)

/-- Lines between marks, the last ones on a line of their own. -/
lemma Spelled.betweenLines (hs : Marks s) (ht : Spelled Parting t) (hu : Marks u)
    (line : u.toList.head? = some '\n') : Spelled q (s ++ indent t ++ u) := by
  refine append (free_append hs.spelled (spelled_indent ht)) hu.spelled fun tail _ c hc => ?_
  rw [List.head?_append, line] at hc
  simpa using hc.symm

lemma spelled_joinParts {separator : String} (hs : Marks separator) {parts : List String}
    (h : ∀ s ∈ parts, Spelled Parting s) : Spelled Parting (joinParts separator parts) := by
  rw [joinParts]
  have h : ∀ s ∈ parts.filter (· ≠ ""), Spelled Parting s :=
    fun s hm => h s (List.mem_of_mem_filter hm)
  generalize parts.filter (· ≠ "") = parts at h
  induction parts with
  | nil => exact .empty
  | cons s parts ih =>
    have hs' : Spelled Parting s := h s List.mem_cons_self
    have ih := ih fun t ht => h t (List.mem_cons_of_mem s ht)
    cases parts with
    | nil => simpa using hs'
    | cons t parts =>
      rw [String.intercalate_cons_cons]
      exact Spelled.free_append (hs'.append_marks hs) ih

lemma spelled_enclose (h : Spelled q (s ++ t ++ u)) : Spelled q (enclose s t u) := by
  rw [enclose]
  split
  · exact .empty
  · exact h

lemma parting_enclose (h : Marks s) : Parting (enclose s t u).toList := by
  rw [enclose]
  split
  · exact stops_nil _
  · rw [String.append_assoc, String.toList_append]
    exact h.parting _

lemma spelled_braces {lines : List String} (h : ∀ s ∈ lines, Spelled Parting s) :
    Spelled q (braces lines) :=
  spelled_enclose (.betweenLines (by decide) (spelled_joinParts (by decide) h) (by decide) rfl)

/-! ### Values and types -/

lemma spelled_layoutList {items : List String} (h : ∀ s ∈ items, Spelled Parting s) :
    Spelled q (layoutList items) := by
  unfold layoutList
  dsimp only
  split
  · exact .betweenLines (by decide) (spelled_joinParts (by decide) h) (by decide) rfl
  · exact .between (by decide) (spelled_joinParts (by decide) h) (by decide)

lemma spelled_layoutObject {fields : List String} (h : ∀ s ∈ fields, Spelled Parting s) :
    Spelled q (layoutObject fields) := by
  unfold layoutObject
  dsimp only
  split
  · exact spelled_braces h
  · exact .between (by decide) (spelled_joinParts (by decide) h) (by decide)

mutual

lemma Value.spelled : (v : Value) → Spelled Parting v.text
  | .var n => by
    rw [Value.text]
    exact Spelled.free_append (Marks.spelled (by decide)) n.spelled
  | .number n => by
    rw [Value.text]
    exact n.spelled
  | .string s => by
    rw [Value.text]
    exact s.spelled
  | .word n => by
    rw [Value.text]
    exact n.spelled
  | .list items => by
    rw [Value.text]
    exact spelled_layoutList (Value.spelled_texts items)
  | .object fields => by
    rw [Value.text]
    exact spelled_layoutObject (Value.spelled_fieldTexts fields)

lemma Value.spelled_texts : (vs : List Value) → ∀ s ∈ Value.texts vs, Spelled Parting s
  | [] => by simp [Value.texts]
  | v :: vs => by
    rw [Value.texts]
    intro s hs
    rcases List.mem_cons.mp hs with rfl | hs
    · exact v.spelled
    · exact Value.spelled_texts vs s hs

lemma Value.spelled_fieldTexts :
    (fs : List (Name × Value)) → ∀ s ∈ Value.fieldTexts fs, Spelled Parting s
  | [] => by simp [Value.fieldTexts]
  | (n, v) :: fs => by
    rw [Value.fieldTexts]
    intro s hs
    rcases List.mem_cons.mp hs with rfl | hs
    · exact Spelled.free_append (n.spelled.append_marks (by decide)) v.spelled
    · exact Value.spelled_fieldTexts fs s hs

end

lemma TypeRef.spelled (t : TypeRef) : Spelled Parting t.text := by
  induction t with
  | named n => exact n.spelled
  | list t ih => exact .between (by decide) ih (by decide)
  | nonNull t ih => exact ih.append_marks (by decide)

/-- Arguments in parentheses. -/
lemma spelled_arguments (arguments : Arguments) :
    Spelled Parting (enclose "(" (joinParts ", " (Value.fieldTexts arguments)) ")") :=
  spelled_enclose (.between (by decide)
    (spelled_joinParts (by decide) (Value.spelled_fieldTexts arguments)) (by decide))

lemma Directive.spelled (d : Directive) : Spelled Parting d.text :=
  (Spelled.free_append (Marks.spelled (by decide)) d.name.spelled).append_parting
    (spelled_arguments d.arguments) (parting_enclose (by decide))

lemma spelled_directivesText (ds : List Directive) : Spelled Parting (directivesText ds) := by
  refine spelled_joinParts (by decide) fun s hs => ?_
  obtain ⟨d, -, rfl⟩ := List.mem_map.mp hs
  exact d.spelled

/-- Directives behind something, with a space before them. -/
lemma spelled_behind (ds : List Directive) :
    Spelled Parting (enclose " " (directivesText ds) "") := by
  refine spelled_enclose ((Spelled.free_append ?_ ?_).append_parting .empty (stops_nil _))
  · exact Marks.spelled (by decide)
  · exact spelled_directivesText ds

/-! ### Selections -/

lemma Field.spelled (f : Field) : Spelled Parting f.text := by
  unfold Field.text
  extract_lets label arguments line head
  have labelled : Spelled Parting label := by
    refine Spelled.free_append ?_ f.name.spelled
    cases f.alias? with
    | none => exact .empty
    | some a => exact a.spelled.append_marks (by decide)
  have fields : Spelled Parting (joinParts "\n" arguments) :=
    spelled_joinParts (by decide) (Value.spelled_fieldTexts f.arguments)
  have lined : Spelled Parting line :=
    labelled.append_parting (spelled_arguments f.arguments) (parting_enclose (by decide))
  have heading : Spelled Parting head := by
    unfold head
    split
    · exact labelled.append_parting
        (spelled_enclose (.betweenLines (by decide) fields (by decide) rfl))
        (parting_enclose (by decide))
    · exact lined
  refine spelled_joinParts (by decide) fun s hs => ?_
  rcases List.mem_pair.mp hs with rfl | rfl
  · exact heading
  · exact spelled_directivesText f.directives

lemma spelled_selectionSet {selections : List String} (h : ∀ s ∈ selections, Spelled Parting s) :
    Spelled q (selectionSet selections) := by
  rw [selectionSet]
  split
  · exact Marks.spelled (by decide)
  · exact spelled_braces h

lemma spelled_on : Spelled Anything "on " :=
  (spelled_word (by decide : isWord "on" = true)).append_marks (by decide : Marks " ")

mutual

lemma Selection.spelled : (x : Selection) → Spelled Parting x.text
  | .leaf f => by
    rw [Selection.text]
    exact f.spelled
  | .within f xs => by
    rw [Selection.text]
    exact Spelled.free_append (f.spelled.append_marks (by decide))
      (spelled_selectionSet (Selection.spelled_texts xs))
  | .spread n ds => by
    rw [Selection.text]
    exact (Spelled.free_append spelled_spread n.spelled).append_parting
      (spelled_behind ds) (parting_enclose (by decide))
  | .inline on? ds xs => by
    rw [Selection.text.eq_def]
    refine spelled_joinParts (by decide) fun s hs => ?_
    simp only [List.mem_cons, List.not_mem_nil, or_false] at hs
    obtain rfl | rfl | rfl | rfl := hs
    · exact spelled_spread.free
    · cases on? with
      | none => exact .empty
      | some n => exact Spelled.free_append spelled_on n.spelled
    · exact spelled_directivesText ds
    · exact spelled_selectionSet (Selection.spelled_texts xs)

lemma Selection.spelled_texts : (xs : List Selection) → ∀ s ∈ Selection.texts xs, Spelled Parting s
  | [] => by simp [Selection.texts]
  | x :: xs => by
    rw [Selection.texts]
    intro s hs
    rcases List.mem_cons.mp hs with rfl | hs
    · exact x.spelled
    · exact Selection.spelled_texts xs s hs

end

/-! ### Operations and fragments -/

lemma spelled_descriptionText (description : Option StringLiteral) :
    Spelled Anything (descriptionText description) := by
  cases description with
  | none => exact .empty
  | some s => exact s.spelled.append_marks (by decide)

lemma spelled_defaultText (hs : Marks s) (default? : Option Value) :
    Spelled Parting (defaultText s default?) := by
  cases default? with
  | none => exact .empty
  | some v => exact Spelled.free_append hs.spelled v.spelled

lemma parting_defaultText (hs : Marks s) (default? : Option Value) :
    Parting (defaultText s default?).toList := by
  cases default? with
  | none => exact stops_nil _
  | some v =>
    rw [defaultText, String.toList_append]
    exact hs.parting _

lemma VariableDefinition.spelled (v : VariableDefinition) : Spelled Parting v.text := by
  have sign : Spelled Anything (descriptionText v.description ++ "$") :=
    Spelled.free_append (spelled_descriptionText _) (Marks.spelled (by decide))
  have name : Spelled Anything (descriptionText v.description ++ "$" ++ v.name.text ++ ": ") :=
    (Spelled.free_append sign v.name.spelled).append_marks (by decide)
  have equals : Marks " = " := by decide
  have typed := (Spelled.free_append name v.type.spelled).append_parting
    (spelled_defaultText equals v.default?) (parting_defaultText equals _)
  exact typed.append_parting (spelled_behind v.directives) (parting_enclose (by decide))

lemma spelled_parenthesized {items : List String} (h : ∀ s ∈ items, Spelled Parting s) :
    Spelled q (parenthesized items) := by
  rw [parenthesized]
  split
  · exact spelled_enclose (.between (by decide) (spelled_joinParts (by decide) h) (by decide))
  · exact spelled_enclose (.between (by decide) (spelled_joinParts (by decide) h) (by decide))

lemma parting_parenthesized (items : List String) : Parting (parenthesized items).toList := by
  rw [parenthesized]
  split
  · exact parting_enclose (by decide)
  · exact parting_enclose (by decide)

lemma OperationKind.spelled (kind : OperationKind) : Spelled Parting kind.keyword := by
  cases kind with
  | query => exact spelled_word (by decide)
  | mutation => exact spelled_word (by decide)
  | subscription => exact spelled_word (by decide)

/-- What is printed for an operation is made of tokens. -/
lemma Operation.spelled (o : Operation) : Spelled Parting o.text := by
  unfold Operation.text
  extract_lets name declared head
  have named : Spelled Parting name := by
    unfold name
    cases o.name? with
    | none => exact .empty
    | some n => exact n.spelled
  have signature : Spelled Parting (name ++ declared) := by
    refine named.append_parting (spelled_parenthesized fun s hs => ?_) (parting_parenthesized _)
    obtain ⟨v, -, rfl⟩ := List.mem_map.mp hs
    exact v.spelled
  have heading : Spelled Parting head := by
    refine Spelled.free_append (spelled_descriptionText _) (spelled_joinParts (by decide) ?_)
    intro s hs
    simp only [List.mem_cons, List.not_mem_nil, or_false] at hs
    obtain rfl | rfl | rfl := hs
    · exact o.kind.spelled
    · exact signature
    · exact spelled_directivesText o.directives
  have lead : Spelled Anything (if head = "query" then "" else head ++ " ") := by
    split
    · exact .empty
    · exact heading.append_marks (by decide)
  exact Spelled.free_append lead (spelled_selectionSet (Selection.spelled_texts o.selections))

/-- What is printed for a fragment is made of tokens. -/
lemma Fragment.spelled (f : Fragment) : Spelled Parting f.text := by
  have word : Spelled Anything "fragment " :=
    (spelled_word (by decide : isWord "fragment" = true)).append_marks (by decide : Marks " ")
  have on : Spelled Anything " on " :=
    Spelled.free_append (Marks.spelled (by decide : Marks " ")) spelled_on
  have lead : Spelled Anything (descriptionText f.description ++ "fragment ") :=
    Spelled.free_append (spelled_descriptionText f.description) word
  have name := Spelled.free_append lead f.name.spelled
  have typed : Spelled Parting
      (descriptionText f.description ++ "fragment " ++ f.name.text ++ " on " ++ f.on.text) :=
    Spelled.free_append (name.append on fun _ _ => stops_cons.mpr (by decide)) f.on.spelled
  have directives : Spelled Anything (enclose "" (directivesText f.directives) " ") :=
    spelled_enclose
      ((Spelled.free_append .empty (spelled_directivesText _)).append_marks (by decide))
  exact Spelled.free_append (Spelled.free_append (typed.append_marks (by decide)) directives)
    (spelled_selectionSet (Selection.spelled_texts f.selections))

end OperationHooks
