import RecordProjection.Directive.Bracket
import RecordProjection.Directive.Malformation

/-!
The body of a directive: the text between the parentheses that follow its path, as written. The
parentheses must close, and nothing but blanks may follow them.
-/

namespace RecordProjection.Directive

open Text

/-- The body of `path(...)`. The annotation is taken to start with the path. -/
def body (path note : String) : Except Malformation String :=
  let whole := trim note
  let rest := String.ofList (whole.toList.drop path.length)
  let tokens := tokenize rest
  match tokens with
  | [] => .error (.missingList path whole)
  | opener :: _ =>
    if opener.text ≠ "(" then .error (.missingList path whole)
    else
      match matchingClose tokens 0 with
      | none => .error (.unterminatedList whole)
      | some index =>
        match tokens.drop index with
        | [] => .error (.unterminatedList whole)
        | [closer] => .ok (slice rest opener.stop closer.start)
        | _ :: next :: _ =>
          .error (.trailingText (trim (slice rest next.start rest.length)) path)

end RecordProjection.Directive
