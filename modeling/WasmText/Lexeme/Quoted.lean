import WasmText.Lexeme.Alphabet
import WasmText.Lexeme.Scan

/-!
# The extent of a string

After its opening quote, a string goes on to the next quote that is not part of an escape. An escape
is a backslash with one letter or with two hexadecimal digits. A string ends on the line where it
begins, and holds control characters only as escapes.

A fault in an escape lies at the character that breaks it off; any other fault lies after the
character that is to blame.

## What is proved

* `scanBody_append`: the scan takes the body and the closing quote, and leaves the rest as it was.
-/

namespace WasmText.Lexeme.Quoted

open Diagnostic

/-- The body of a string whose opening quote has been passed, up to its closing quote, which is
passed too. -/
def scanBody : List Char → Scan (List Char)
  | [] => .fault [] .unclosedString
  | c :: cs =>
    if c = '"' then .found [] cs
    else if c = '\\' then
      match cs with
      | [] => .fault ['\\'] (.illegalEscape (describe none))
      | d :: ds =>
        if isEscapeLetter d then (scanBody ds).after ['\\', d]
        else if d.isHexDigit then
          match ds with
          | [] => .fault ['\\', d] (.illegalEscape (describe none))
          | e :: es =>
            if e.isHexDigit then (scanBody es).after ['\\', d, e]
            else .fault ['\\', d] (.illegalEscape (describe (some e)))
        else .fault ['\\'] (.illegalEscape (describe (some d)))
    else if c = '\n' then .fault ['\n'] .unclosedString
    else if isControl c then .fault [c] (.illegalControlCharacter (describe (some c)))
    else (scanBody cs).after [c]

theorem scanBody_append {cs body rest : List Char} (h : scanBody cs = .found body rest) :
    body ++ '"' :: rest = cs := by
  fun_induction scanBody cs generalizing body with
  | case2 => simp_all
  | case4 _ _ _ _ ih | case6 _ _ _ _ _ _ _ ih | case11 _ _ _ _ _ _ ih =>
    obtain ⟨tail, rfl, found⟩ := Scan.after_eq_found_iff.1 h
    simp [ih found]
  | _ => cases h

end WasmText.Lexeme.Quoted
