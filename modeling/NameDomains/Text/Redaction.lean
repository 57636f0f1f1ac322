/-
**Hiding quoted texts.**

A quoted text runs from a quotation mark to the next one that no backslash precedes; a backslash goes
with the character after it, which must not be an end of line. A mark that nothing closes stands for
itself.

* `afterQuote?` — what follows a quoted text, after its opening mark.
* `redactChars`, `redact` — a text with every quoted text in it, from left to right, replaced.
-/

namespace NameDomains.Text

/-- What follows a quoted text, given what follows its opening mark. -/
def afterQuote? : List Char → Option (List Char)
  | [] => none
  | '"' :: rest => some rest
  | ['\\'] => none
  | '\\' :: c :: rest => if c = '\n' then none else afterQuote? rest
  | _ :: rest => afterQuote? rest

/-- A quoted text takes some text. -/
theorem length_of_afterQuote {text rest : List Char} (found : afterQuote? text = some rest) :
    rest.length < text.length := by
  fun_induction afterQuote? text with
  | case1 => exact nomatch found
  | case2 => cases found; exact Nat.lt_succ_self _
  | case3 => exact nomatch found
  | case4 => exact nomatch found
  | case5 c rest _ shorter => exact Nat.lt_succ_of_lt (Nat.lt_succ_of_lt (shorter found))
  | case6 c rest _ _ _ shorter => exact Nat.lt_succ_of_lt (shorter found)

/-- What stands in place of a quoted text. -/
def redacted : List Char := "\"<redacted>\"".toList

/-- The characters of a text with all quoted texts replaced. -/
def redactChars (text : List Char) : List Char :=
  match text with
  | [] => []
  | '"' :: rest =>
    match found : afterQuote? rest with
    | some left =>
      have _shorter := length_of_afterQuote found
      redacted ++ redactChars left
    | none => '"' :: redactChars rest
  | c :: rest => c :: redactChars rest
termination_by text.length

/-- A text with all quoted texts replaced. -/
def redact (text : String) : String := String.ofList (redactChars text.toList)

end NameDomains.Text
