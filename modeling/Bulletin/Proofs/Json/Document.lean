import Bulletin.Proofs.Json.Record

namespace Bulletin.Json

variable {α : Type} {depth size n i : Nat} {name : String} {text rest : Bytes} {v : Json}
variable {written : List (String × Bytes)} {object : Members}

theorem Write.le_length_member (name : String) (value : Bytes) :
    value.length ≤ (Write.member name value).length := by
  simp only [Write.member, List.length_append, List.length_cons]
  omega

theorem Write.list_cons (item : Bytes) (items : List Bytes) : Write.list (item :: items) =
    Ascii.openBracket :: (item ++ (items.flatMap (Ascii.comma :: ·) ++ [Ascii.closeBracket])) := by
  rw [Write.list, Write.intercalate_cons, List.cons_append, List.append_assoc]

theorem Write.length_list (items : List Bytes) : items.length ≤ (Write.list items).length := by
  cases items with
  | nil => exact Nat.zero_le _
  | cons item items =>
    have hitems : items.length ≤ (items.flatMap (Ascii.comma :: ·)).length :=
      Write.length_flatMap_cons Ascii.comma id items
    rw [Write.list_cons]
    simp only [List.length_cons, List.length_append]
    omega

/-- The text is read as the value where it stands in an object, and where `depth` more levels of
nesting are allowed. -/
def Spelled (depth : Nat) (text : Bytes) (v : Json) : Prop :=
  ∀ size rest, text.length < size → Closes rest →
    Document.value size depth (text ++ rest) = .ok (v, rest)

theorem Document.value_text (s : String) :
    value size depth (Write.text s ++ rest) = .ok (.text s, rest) := by
  rw [value, Lexer.token_text]

theorem spelled_text (depth : Nat) (s : String) : Spelled depth (Write.text s) (.text s) :=
  fun _ _ _ _ => Document.value_text s

theorem spelled_flag (depth : Nat) (b : Bool) : Spelled depth (Write.flag b) (.flag b) := by
  intro size rest _ _
  rw [Document.value, Lexer.token_flag]

theorem spelled_natural (depth : Nat) (n : UInt64) :
    Spelled depth (Write.natural n.toNat) (.number (.natural n)) := by
  intro size rest _ hrest
  rw [Document.value, Lexer.token_natural n.toNat_lt hrest.ends, Nat.toUInt64, UInt64.ofNat_toNat]

namespace Document

theorem elements_step {element : Reader α} {done : List α} {input next : Bytes} {a : α}
    (hnext : Lexer.nextElement (i == 0) input = .ok (true, next))
    (helement : element next = .ok (a, rest)) :
    elements element (n + 1) i done input = elements element n (i + 1) (a :: done) rest := by
  rw [elements, hnext]
  dsimp only
  rw [helement]

theorem elements_further (texts : List String) (hn : texts.length < n) (done : List Json) :
    elements (value size depth) n (i + 1) done
        ((texts.map Write.text).flatMap (Ascii.comma :: ·) ++ Ascii.closeBracket :: rest) =
      .ok (done.reverse ++ texts.map .text, rest) := by
  induction texts generalizing n i done with
  | nil =>
    cases n with
    | zero => cases hn
    | succ n =>
      rw [List.map_nil, List.map_nil, List.append_nil]
      rfl
  | cons s texts ih =>
    cases n with
    | zero => cases hn
    | succ n =>
      rw [List.map_cons, List.flatMap_cons, List.append_assoc, List.cons_append,
        elements_step rfl (value_text s), ih (Nat.lt_of_succ_lt_succ hn), List.reverse_cons,
        List.append_assoc]
      rfl

theorem elements_written (texts : List String) (hn : texts.length < n) :
    elements (value size depth) n 0 []
        ((Write.list (texts.map Write.text) ++ rest).drop 1) = .ok (texts.map .text, rest) := by
  cases n with
  | zero => cases hn
  | succ n =>
    cases texts with
    | nil => rfl
    | cons s texts =>
      rw [List.map_cons, Write.list_cons, List.cons_append, List.drop_one, List.tail_cons,
        List.append_assoc, List.append_assoc, List.singleton_append,
        elements_step rfl (value_text s), elements_further texts (Nat.lt_of_succ_lt_succ hn)]
      rfl

end Document

theorem spelled_texts (depth : Nat) (texts : List String) :
    Spelled (depth + 1) (Write.list (texts.map Write.text)) (.sequence (texts.map .text)) := by
  intro size rest hsize _
  have hn := Nat.lt_of_le_of_lt (Write.length_list (texts.map Write.text)) hsize
  rw [List.length_map] at hn
  have htoken : Lexer.token (Write.list (texts.map Write.text) ++ rest) =
      .ok (.sequence, Write.list (texts.map Write.text) ++ rest) := rfl
  rw [Document.value, htoken]
  dsimp only
  rw [Document.elements_written texts hn]
  rfl

inductive Members.Spelled (depth : Nat) : List (String × Bytes) → Members → Prop
  | nil : Members.Spelled depth [] []
  | cons {name : String} {text : Bytes} {v : Json} {written : List (String × Bytes)}
    {object : Members} : Json.Spelled depth text v → Members.Spelled depth written object →
    Members.Spelled depth ((name, text) :: written) ((name, v) :: object)

namespace Document

theorem members_step {element : Reader α} {done : List (String × α)} {input : Bytes} {a : α}
    (hnext : Lexer.nextMember done.isEmpty input = .ok (true, (utf8 name).flatMap Write.escape ++
      Ascii.quote :: Ascii.colon :: (text ++ rest)))
    (helement : element (text ++ rest) = .ok (a, rest)) :
    members element (n + 1) done input = members element n ((name, a) :: done) rest := by
  have hcolon : Lexer.colon (Ascii.colon :: (text ++ rest)) = .ok (text ++ rest) := rfl
  rw [members, hnext]
  dsimp only
  rw [Literal.read_escape]
  dsimp only
  rw [hcolon]
  dsimp only
  rw [helement]

theorem members_further (h : Members.Spelled depth written object)
    (hsize : (Write.further written).length < size) (hn : written.length < n)
    {done : List (String × Json)} (hdone : done.isEmpty = false) :
    members (value size depth) n done (Write.further written ++ Ascii.closeBrace :: rest) =
      .ok (done.reverse ++ object, rest) := by
  induction h generalizing n done with
  | nil =>
    cases n with
    | zero => cases hn
    | succ n =>
      rw [members, hdone, List.append_nil]
      rfl
  | @cons name text v written object hvalue _ ih =>
    cases n with
    | zero => cases hn
    | succ n =>
      have hfurther : Write.further ((name, text) :: written) =
          Ascii.comma :: Write.member name text ++ Write.further written := List.flatMap_cons
      have htext := Write.le_length_member name text
      rw [hfurther, List.length_append, List.length_cons] at hsize
      have hvalue := hvalue size _ (by omega) (Record.closes_further written rest)
      rw [hfurther, List.cons_append, List.cons_append, List.append_assoc, Write.member_append,
        members_step (by rw [hdone]; rfl) hvalue, ih (by omega) (Nat.lt_of_succ_lt_succ hn) rfl,
        List.reverse_cons, List.append_assoc]
      rfl

theorem members_written (rest : Bytes) (h : Members.Spelled depth written object)
    (hsize : (Write.object written).length < size) (hn : written.length < n) :
    members (value size depth) n [] ((Write.object written ++ rest).drop 1) =
      .ok (object, rest) := by
  cases n with
  | zero => cases hn
  | succ n =>
    cases h with
    | nil => rfl
    | @cons name text v written object hvalue hobject =>
      have htext := Write.le_length_member name text
      rw [Write.object_cons] at hsize ⊢
      simp only [List.length_cons, List.length_append] at hsize
      have hvalue := hvalue size _ (by omega) (Record.closes_further written rest)
      rw [List.cons_append, List.drop_one, List.tail_cons, List.append_assoc, List.append_assoc,
        List.singleton_append, Write.member_append, members_step rfl hvalue,
        members_further hobject (by omega) (Nat.lt_of_succ_lt_succ hn) rfl]
      rfl

end Document

theorem spelled_object (h : Members.Spelled depth written object) :
    Spelled (depth + 1) (Write.object written) (.object object) := by
  intro size rest hsize _
  have hn := Nat.lt_of_le_of_lt (Write.length_object written) hsize
  have htoken : Lexer.token (Write.object written ++ rest) =
      .ok (.object, Write.object written ++ rest) := rfl
  rw [Document.value, htoken]
  dsimp only
  rw [Document.members_written rest h hsize hn]
  rfl

theorem readObject_written (h : Members.Spelled (maxDepth - 1) written object) :
    readObject (Write.object written) = .ok object := by
  have hn := Nat.lt_succ_of_le (Write.length_object written)
  have htoken : Lexer.token (Write.object written) = .ok (.object, Write.object written) := rfl
  have hmembers := Document.members_written [] h (Nat.lt_succ_self _) hn
  rw [List.append_nil] at hmembers
  rw [readObject, Document.whole, Document.object, htoken]
  dsimp only
  rw [hmembers]
  rfl

end Bulletin.Json
