import Bulletin.Text.Blank

namespace Bulletin

namespace Email

def maxLength : Nat := 254

def splits (cs : List Char) : Bool :=
  match cs.span (· ≠ '@') with
  | (name, _ :: domain) =>
    !name.isEmpty && !domain.contains '@' && domain.contains '.' && domain.head? != some '.'
      && domain.getLast? != some '.'
  | (_, []) => false

def accepts (s : String) : Bool :=
  s.length ≤ maxLength && splits s.toList && !s.toList.any Text.isBlank

end Email

structure Email where
  text : String
  accepted : Email.accepts text
  deriving DecidableEq

namespace Email

inductive Invalid where
  | malformed (text : String)
  | tooLong (text : String)
  deriving DecidableEq, Repr

def Invalid.message : Invalid → String
  | .malformed _ => "Enter a valid email address."
  | .tooLong _ => "Ensure this field has no more than " ++ toString maxLength ++ " characters."

/-- The length is judged before the form. -/
def ofText (s : String) : Except Invalid Email :=
  if maxLength < s.length then .error (.tooLong s)
  else if h : accepts s then .ok ⟨s, h⟩
  else .error (.malformed s)

@[simp] theorem ofText_text (e : Email) : ofText e.text = .ok e := by
  have h : ¬ maxLength < e.text.length := by
    have := e.accepted
    simp only [accepts, Bool.and_eq_true, decide_eq_true_eq] at this
    omega
  simp [ofText, h, e.accepted]

theorem text_injective : Function.Injective text := by
  intro a b h
  cases a
  cases b
  cases h
  rfl

end Email

end Bulletin
