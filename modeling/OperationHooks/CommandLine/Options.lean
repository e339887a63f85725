import OperationHooks.CommandLine.Usage
import OperationHooks.Text.Resemblance

/-!
# Options of a command

The arguments of a command line, taken apart into options and the rest. A long option is written in
full, with its value behind an equals sign or in the next argument. Short options are single
characters, several of which may share a dash, and what follows one that takes a value is its
value. Two dashes alone end the options.
-/

namespace OperationHooks

namespace CommandLine

/-- An option: what it stands for, how it is written, and whether it takes a value. -/
structure OptionForm (α : Type) where
  tag : α
  long : String
  short? : Option Char
  takesValue : Bool

/-- A short option as it is written. -/
def shortText (c : Char) : String := String.ofList ['-', c]

/-- All ways of writing an option. -/
def OptionForm.written {α : Type} (f : OptionForm α) : String :=
  " / ".intercalate (("'" ++ f.long ++ "'")
    :: f.short?.toList.map (fun c => "'" ++ shortText c ++ "'"))

/-- An option that was given, with its value; one that takes none has the empty value. -/
abbrev Given (α : Type) : Type := α × String

/-- What a single argument says: options that are complete, and perhaps one that has its value in
the next argument, together with the way it is written. -/
structure OptionGroup (α : Type) where
  given : List (Given α)
  waiting? : Option (α × String)

section

variable {α : Type}

/-- Reads a long option. -/
def readLong (forms : List (OptionForm α)) (argument : List Char) :
    Except UsageFault (OptionGroup α) :=
  let name := String.ofList (argument.takeWhile (· != '='))
  let value? :=
    match argument.dropWhile (· != '=') with
    | [] => none
    | _ :: value => some (String.ofList value)
  match forms.find? (·.long == name) with
  | none => .error (.noSuchOption name (closeNames name (forms.map (·.long))))
  | some f =>
    match f.takesValue, value? with
    | true, some value => .ok ⟨[(f.tag, value)], none⟩
    | true, none => .ok ⟨[], some (f.tag, name)⟩
    | false, some _ => .error (.takesNoValue name)
    | false, none => .ok ⟨[(f.tag, "")], none⟩

/-- Reads short options that share a dash. -/
def readShort (forms : List (OptionForm α)) : List Char → Except UsageFault (OptionGroup α)
  | [] => .ok ⟨[], none⟩
  | c :: rest =>
    match forms.find? (·.short? == some c) with
    | none => .error (.noSuchOption (shortText c) [])
    | some f =>
      if f.takesValue then
        if rest = [] then .ok ⟨[], some (f.tag, shortText c)⟩
        else .ok ⟨[(f.tag, String.ofList rest)], none⟩
      else
        match readShort forms rest with
        | .error e => .error e
        | .ok group => .ok { group with given := (f.tag, "") :: group.given }

/-- Reads an argument that starts with a dash. -/
def readGroup (forms : List (OptionForm α)) (argument : List Char) :
    Except UsageFault (OptionGroup α) :=
  match argument with
  | '-' :: '-' :: _ => readLong forms argument
  | _ => readShort forms argument.tail

/-- Whether an argument has to be read as options. -/
def isOptionText (argument : List Char) : Bool :=
  argument.head? == some '-' && argument.length > 1

/-- The options among arguments and the arguments that are left. Unless arguments may stand between
options, the first that is none ends them. -/
def readOptions (forms : List (OptionForm α)) (between : Bool) :
    List String → Except UsageFault (List (Given α) × List String)
  | [] => .ok ([], [])
  | argument :: rest =>
    if argument = "--" then .ok ([], rest)
    else if isOptionText argument.toList then
      match readGroup forms argument.toList with
      | .error e => .error e
      | .ok ⟨given, none⟩ =>
        (readOptions forms between rest).map (fun (more, left) => (given ++ more, left))
      | .ok ⟨given, some (tag, name)⟩ =>
        match rest with
        | [] => .error (.needsValue name)
        | value :: rest =>
          (readOptions forms between rest).map
            (fun (more, left) => (given ++ (tag, value) :: more, left))
    else if between then
      (readOptions forms between rest).map (fun (more, left) => (more, argument :: left))
    else .ok ([], argument :: rest)

end

end CommandLine

end OperationHooks
