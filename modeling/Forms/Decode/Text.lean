import Forms.Decode.Record
import Forms.Json.Written

/-!
# Reading typed values from text

A text is read in three steps: it must be well formed, the members that somebody asks for must be
values, and those must have the right shape.  What is wrong with a text that is no JSON is not told,
so a fault of shape counts only in a text that is otherwise sound.
-/

namespace Forms.Decode

variable {α : Type}

/-- How many arrays and objects may be nested in a text. -/
def textDepth : Nat := 127

/-- Reads a value of a shape from the text of it. -/
def fromText (shape : Shape) (decoder : Decoder α) (text : String) : Outcome α :=
  match Written.ofText? text with
  | none => .error .malformedText
  | some written =>
    match (written.select shape).toJson? textDepth with
    | none => .error .malformedText
    | some value =>
      match decoder .text value with
      | .ok result => .ok result
      | .error error =>
        if (written.toJson? textDepth).isSome then .error (.unreadable error)
        else .error .malformedText

/-- Reads a value that is at hand. -/
def fromValue (decoder : Decoder α) (value : Json) : Outcome α :=
  (decoder .value value).mapError .unreadable

end Forms.Decode
