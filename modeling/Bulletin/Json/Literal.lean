import Bulletin.Json.Failure

/-!
Texts between quotes, read by a machine that takes a byte at a time. It collects the bytes that
the literal stands for; whether they are text is asked at the closing quote.
-/

namespace Bulletin.Json.Literal

inductive State where
  | plain
  | escape
  | hex (lead : Option Nat) (digits : Bytes)
  | pair (lead : Nat)
  | pairEscape (lead : Nat)
  deriving DecidableEq

def hexValue? (digits : Bytes) : Option Nat :=
  digits.foldlM (fun n d => (Ascii.hexDigit? d).map (16 * n + ·)) 0

def encode (code : Nat) : Bytes := String.utf8EncodeChar (Char.ofNat code)

def paired (lead trail : Nat) : Nat := 0x10000 + (lead - 0xD800) * 0x400 + (trail - 0xDC00)

def unit (lead : Option Nat) (n : Nat) : Except Cause (State × Bytes) :=
  match lead with
  | none =>
    if 0xDC00 ≤ n ∧ n ≤ 0xDFFF then .error .loneSurrogate
    else if 0xD800 ≤ n ∧ n ≤ 0xDBFF then .ok (.pair n, [])
    else .ok (.plain, encode n)
  | some lead =>
    if 0xDC00 ≤ n ∧ n ≤ 0xDFFF then .ok (.plain, encode (paired lead n))
    else .error .loneSurrogate

def unescape (b : UInt8) : Except Cause (State × Bytes) :=
  match Char.ofUInt8 b with
  | '"' | '\\' | '/' => .ok (.plain, [b])
  | 'b' => .ok (.plain, [8])
  | 'f' => .ok (.plain, [12])
  | 'n' => .ok (.plain, [10])
  | 'r' => .ok (.plain, [13])
  | 't' => .ok (.plain, [9])
  | 'u' => .ok (.hex none [], [])
  | _ => .error .invalidEscape

def step : State → UInt8 → Except Cause (State × Bytes)
  | .plain, b =>
    if b = Ascii.backslash then .ok (.escape, [])
    else if b < 32 then .error .controlCharacter
    else .ok (.plain, [b])
  | .escape, b => unescape b
  | .hex lead digits, b =>
    if digits.length < 3 then .ok (.hex lead (digits ++ [b]), [])
    else match hexValue? (digits ++ [b]) with
      | some n => unit lead n
      | none => .error .invalidEscape
  | .pair lead, b =>
    if b = Ascii.backslash then .ok (.pairEscape lead, []) else .error .unpairedEscape
  | .pairEscape lead, b =>
    if b = 'u'.toUInt8 then .ok (.hex (some lead) [], []) else .error .unpairedEscape

def run (done : Bytes) : State → Reader Bytes
  | _, [] => .error (.before [] (.ends .text))
  | state, b :: rest =>
    if state = .plain ∧ b = Ascii.quote then .ok (done.reverse, rest)
    else match step state b with
      | .ok (next, bytes) => run (bytes.reverse ++ done) next rest
      | .error cause => .error (.before rest cause)

/-- Reads a literal whose opening quote has been read. Bytes that are no text are reported as far
before its end as they stand before the end of what it means. -/
def read : Reader String := fun input =>
  match run [] .plain input with
  | .error f => .error f
  | .ok (bytes, rest) => match ofUtf8? bytes with
    | some s => .ok (s, rest)
    | none =>
      let place := .fixed (rest.length + (bytes.length - Utf8.validLength bytes))
      .error { cause := .invalidCodePoint, place }

/-- Passes over a literal. Surrogates need no partner here, and a control character is not read. -/
def skip : State → Bytes → Except Failure Bytes
  | _, [] => .error (.before [] (.ends .text))
  | .hex lead digits, b :: rest =>
    if digits.length < 3 then skip (.hex lead (digits ++ [b])) rest
    else match hexValue? (digits ++ [b]) with
      | some _ => skip .plain rest
      | none => .error (.before rest .invalidEscape)
  | .escape, b :: rest => match unescape b with
    | .ok (next, _) => skip next rest
    | .error cause => .error (.before rest cause)
  | _, b :: rest =>
    if b = Ascii.quote then .ok rest
    else if b = Ascii.backslash then skip .escape rest
    else if b < 32 then .error (.before (b :: rest) .controlCharacter)
    else skip .plain rest

end Bulletin.Json.Literal
