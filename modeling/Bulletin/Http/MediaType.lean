import Bulletin.Text.Ascii
import Bulletin.Text.Utf8

namespace Bulletin

structure MediaType where
  main : Bytes
  sub : Bytes
  suffix : Option Bytes
  deriving DecidableEq

namespace MediaType

def isToken (b : UInt8) : Bool :=
  let c := Char.ofUInt8 b
  c.isAlphanum || ['!', '#', '$', '%', '&', '\'', '*', '+', '-', '.', '^', '_', '\x60', '|', '~'].elem c

def isQuotable (b : UInt8) : Bool := 31 < b && b != 127

def isVisible (b : UInt8) : Bool := (32 ≤ b && b < 127) || b == Ascii.tab

def afterQuote (first : Bool) : Bytes → Option Bytes
  | [] => none
  | b :: rest =>
    if b = Ascii.quote ∧ !first then some rest
    else if isQuotable b then afterQuote false rest
    else none

def areParameters : Nat → Bytes → Bool
  | 0, input => input.isEmpty
  | _ + 1, [] => true
  | n + 1, Ascii.space :: rest => areParameters n rest
  | n + 1, input =>
    match input.span isToken with
    | (_ :: _, Ascii.equals :: Ascii.quote :: rest) => match afterQuote true rest with
      | none => false
      | some rest => match rest.dropWhile (· == Ascii.space) with
        | [] => true
        | b :: rest => b = Ascii.semicolon && areParameters n rest
    | (_ :: _, Ascii.equals :: rest) => match rest.span isToken with
      | (_, []) => true
      | (value, b :: rest) => !value.isEmpty && b = Ascii.semicolon && areParameters n rest
    | _ => false

def splitSuffix (sub : Bytes) : Bytes × Option Bytes :=
  match sub.reverse.span (· ≠ Ascii.plus) with
  | (suffix, _ :: b :: before) => ((b :: before).reverse, some suffix.reverse)
  | _ => (sub, none)

def ofBytes? (input : Bytes) : Option MediaType :=
  match input.span isToken with
  | (main@(_ :: _), Ascii.slash :: rest) =>
    let (sub, rest) := rest.span isToken
    let whole := match rest with
      | [] => true
      | b :: rest => !sub.isEmpty && b = Ascii.semicolon && areParameters rest.length rest
    let (sub, suffix) := splitSuffix sub
    let small := List.map Ascii.lower
    if whole then some ⟨small main, small sub, suffix.map small⟩ else none
  | _ => none

def isJson (m : MediaType) : Bool :=
  m.main = utf8 "application" && (m.sub = utf8 "json" || m.suffix = some (utf8 "json"))

def announcesJson (header : Bytes) : Bool :=
  header.all isVisible && ((ofBytes? header).any isJson)

end MediaType

end Bulletin
