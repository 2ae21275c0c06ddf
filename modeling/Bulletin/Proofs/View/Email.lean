import Bulletin.Proofs.Json.Narrowed
import Bulletin.Proofs.View.Judged
import Bulletin.Proofs.View.Wire
import Bulletin.View.Plain

namespace Bulletin

open Json (Scalar)

namespace Email

variable {s : String} {e : Email} {cs : List Char}

theorem dotted_iff {domain : List Char} :
    '.' ∈ domain ∧ domain.head? ≠ some '.' ∧ domain.getLast? ≠ some '.' ↔
      ∃ front back, domain = front ++ '.' :: back ∧ front ≠ [] ∧ back ≠ [] ∧
        front.head? ≠ some '.' ∧ back.getLast? ≠ some '.' := by
  constructor
  · rintro ⟨hdot, hhead, hlast⟩
    obtain ⟨front, back, rfl⟩ := List.append_of_mem hdot
    have hfront : front ≠ [] := by
      rintro rfl
      exact hhead rfl
    have hback : back ≠ [] := by
      rintro rfl
      exact hlast (by simp)
    refine ⟨front, back, rfl, hfront, hback, ?_, ?_⟩
    · rwa [List.head?_append_of_ne_nil _ hfront] at hhead
    · rwa [List.getLast?_append_of_ne_nil _ (List.cons_ne_nil _ _),
        List.getLast?_cons_of_ne_nil hback] at hlast
  · rintro ⟨front, back, rfl, hfront, hback, hhead, hlast⟩
    refine ⟨by simp, ?_, ?_⟩
    · rwa [List.head?_append_of_ne_nil _ hfront]
    · rwa [List.getLast?_append_of_ne_nil _ (List.cons_ne_nil _ _),
        List.getLast?_cons_of_ne_nil hback]

theorem splits_iff : splits cs ↔ ∃ name domain, cs = name ++ '@' :: domain ∧ name ≠ [] ∧
    '@' ∉ name ∧ '@' ∉ domain ∧
      '.' ∈ domain ∧ domain.head? ≠ some '.' ∧ domain.getLast? ≠ some '.' := by
  unfold splits
  rw [List.span_eq_takeWhile_dropWhile]
  constructor
  · intro h
    have hsplit := List.takeWhile_append_dropWhile (p := (· ≠ '@')) (l := cs)
    have hname : '@' ∉ cs.takeWhile (· ≠ '@') := fun hat => by
      simpa using List.mem_takeWhile_imp hat
    split at h
    case h_1 name c domain heq =>
      obtain ⟨rfl, hdrop⟩ := Prod.mk.inj heq
      have hc : c = '@' := by
        have hnot := List.head?_dropWhile_not (· ≠ '@') cs
        rw [hdrop] at hnot
        simpa using hnot
      rw [hdrop, hc] at hsplit
      simp only [Bool.and_eq_true, Bool.not_eq_true', bne_iff_ne, List.isEmpty_eq_false_iff,
        List.contains_eq_mem, decide_eq_true_eq, decide_eq_false_iff_not] at h
      obtain ⟨⟨⟨⟨hne, hat⟩, hdot⟩, hhead⟩, hlast⟩ := h
      exact ⟨_, domain, hsplit.symm, hne, hname, hat, hdot, hhead, hlast⟩
    case h_2 => cases h
  · rintro ⟨name, domain, rfl, hne, hname, hat, hdot, hhead, hlast⟩
    have hkeep : ∀ c ∈ name, decide (c ≠ '@') := fun c hc =>
      decide_eq_true fun heq => hname (heq ▸ hc)
    rw [List.takeWhile_append_of_pos hkeep, List.dropWhile_append_of_pos hkeep]
    simp [hne, hat, hdot, hhead, hlast]

theorem wellFormed_iff : WellFormed s ↔
    splits s.toList ∧ ∀ c ∈ s.toList, Text.isBlank c = false := by
  rw [splits_iff]
  constructor
  · rintro ⟨name, domain, suffix, rfl, hname, hdomain, hsuffix, hhead, hlast, hat, hblank⟩
    refine ⟨⟨name.toList, domain.toList ++ '.' :: suffix.toList, ?_, ?_, ?_, ?_, ?_⟩, hblank⟩
    · simp
    · simpa using hname
    · exact hat name (by simp)
    · have := hat domain (by simp)
      have := hat suffix (by simp)
      simp [*]
    · apply dotted_iff.2
      exact ⟨_, _, rfl, by simpa using hdomain, by simpa using hsuffix, hhead, hlast⟩
  · rintro ⟨⟨name, domain, hs, hname, hat, hat', hdotted⟩, hblank⟩
    obtain ⟨front, back, rfl, hfront, hback, hhead, hlast⟩ := dotted_iff.1 hdotted
    rw [List.mem_append, List.mem_cons, not_or, not_or] at hat'
    refine ⟨.ofList name, .ofList front, .ofList back, ?_, by simpa using hname,
      by simpa using hfront, by simpa using hback, by simpa using hhead, by simpa using hlast, ?_,
      hblank⟩
    · apply String.toList_injective
      simp [hs]
    · simp [hat, hat'.1, hat'.2.2]

theorem accepts_iff : accepts s ↔ s.length ≤ 254 ∧ WellFormed s := by
  have hmax : maxLength = 254 := rfl
  rw [wellFormed_iff, accepts, hmax]
  simp only [Bool.and_eq_true, decide_eq_true_eq, Bool.not_eq_true', List.any_eq_false,
    Bool.not_eq_true, and_assoc]

theorem keeps_iff : Keeps s e ↔ accepts s ∧ e.text = s := by
  rw [accepts_iff]
  exact ⟨fun h => ⟨⟨h.short, h.wellFormed⟩, h.text⟩, fun h => ⟨h.1.1, h.1.2, h.2⟩⟩

theorem keeps_text (e : Email) : Keeps e.text e := keeps_iff.2 ⟨e.accepted, rfl⟩

theorem ofText_cases (s : String) :
    (254 < s.length ∧ ofText s = .error (.tooLong s)) ∨ (∃ e, Keeps s e ∧ ofText s = .ok e) ∨
      (s.length ≤ 254 ∧ ¬ WellFormed s ∧ ofText s = .error (.malformed s)) := by
  have hmax : maxLength = 254 := rfl
  unfold ofText
  rw [hmax]
  split
  case isTrue hlong => exact .inl ⟨hlong, rfl⟩
  case isFalse hshort =>
    have hshort := Nat.not_lt.1 hshort
    split
    case isTrue haccepts => exact .inr (.inl ⟨_, keeps_iff.2 ⟨haccepts, rfl⟩, rfl⟩)
    case isFalse hrejects =>
      exact .inr (.inr ⟨hshort, fun h => hrejects (accepts_iff.2 ⟨hshort, h⟩), rfl⟩)

theorem classified (s : String) : Classified s := by
  obtain ⟨hlong, h⟩ | ⟨e, he, h⟩ | ⟨hshort, hnot, h⟩ := ofText_cases s
  · have hkeeps (e : Email) : ¬ Keeps s e := fun he => Nat.not_le.2 hlong he.short
    exact ⟨by simp [h, hlong, eq_comm], by simp [h, hkeeps], by simp [h, Nat.not_le.2 hlong]⟩
  · have hkeeps (e' : Email) : e = e' ↔ Keeps s e' :=
      ⟨fun heq => heq ▸ he, fun he' => text_injective (he.text.trans he'.text.symm)⟩
    exact ⟨by simp [h, he.short], by simp [h, hkeeps], by simp [h, he.wellFormed]⟩
  · have hkeeps (e : Email) : ¬ Keeps s e := fun he => hnot he.wellFormed
    exact ⟨by simp [h, hshort], by simp [h, hkeeps], by simp [h, hshort, hnot, eq_comm]⟩

theorem accept_iff {token : Json.Token} :
    Email.scalar.accept token = .ok e ↔ ∃ s, token = .text s ∧ Keeps s e := by
  cases token with
  | text s =>
    change (ofText s).mapError _ = _ ↔ _
    simp only [Json.Token.text.injEq, exists_eq_left', ← (classified _).accepted]
    cases ofText s <;> simp [Except.mapError]
  | _ => exact ⟨nofun, nofun⟩

theorem ofJson_iff {v : Json} : Email.scalar.ofJson v = .ok e ↔ ∃ s, v = .text s ∧ Keeps s e := by
  rw [Scalar.ofJson, accept_iff]
  cases v <;> simp [Json.token]

theorem decode_iff {text : Bytes} : Email.scalar.decode text = .ok e ↔
    ∃ s, Json.read text = .ok (.text s) ∧ Keeps s e := by
  rw [← Scalar.read_iff_decode]
  · simp only [ofJson_iff]
    constructor
    · rintro ⟨_, hread, s, rfl, hs⟩
      exact ⟨s, hread, hs⟩
    · rintro ⟨s, hread, hs⟩
      exact ⟨_, hread, s, rfl, hs⟩
  · exact fun h => nomatch accept_iff.1 h
  · exact fun h => nomatch accept_iff.1 h

theorem ofValue_iff {name : String} {hasDefault : Bool} {v : Json} :
    (Field.ofValue { name, scalar := Email.scalar, hasDefault } v).value? = some e ↔
      ∃ s, v = .text s ∧ Keeps s e := by
  rw [← ofJson_iff]
  cases v with
  | null => exact ⟨nofun, nofun⟩
  | _ =>
    simp only [Field.ofValue]
    cases Email.scalar.ofJson _ <;> simp [Verdict.value?]

theorem inPayload_iff {name : String} {hasDefault : Bool}
    {reading : PayloadReader.Reading (Option Email)}
    (hpasses : PayloadReader.Passes { name, scalar := Email.scalar, hasDefault } reading)
    (r : PayloadReader) : (reading.run r).1 = some e ↔
      ∃ s, r.fields.get? name = some (.text s) ∧ Keeps s e := by
  rw [hpasses r]
  cases hget : r.fields.get? name with
  | none =>
    simp only [Field.judge, hget]
    split <;> simp [Verdict.value?]
  | some v =>
    rw [Field.judge_given hget]
    simpa using ofValue_iff

end Email

namespace User

def Draft.toPlain (draft : Draft) : PlainUser.Draft where
  id := draft.id
  email := draft.email.map (·.text)
  firstName := draft.firstName
  lastName := draft.lastName
  isActive := draft.isActive
  createdAt := draft.createdAt
  updatedAt := draft.updatedAt

theorem toPlain_injective : Function.Injective Draft.toPlain := by
  rintro ⟨id, email, firstName, lastName, isActive, createdAt, updatedAt⟩ draft heq
  obtain ⟨id', email', firstName', lastName', isActive', createdAt', updatedAt'⟩ := draft
  simp only [Draft.toPlain, PlainUser.Draft.mk.injEq] at heq
  obtain ⟨rfl, hemail, rfl, rfl, rfl, rfl, rfl⟩ := heq
  rw [Option.map_injective Email.text_injective hemail]

end User

namespace PlainUser

theorem finish_iff {draft : Draft} {u : User} :
    draft.finish = .ok u.toPlain ↔ draft = u.toDraft.toPlain := by
  obtain ⟨id, email, firstName, lastName, isActive, createdAt, updatedAt⟩ := draft
  simp only [Draft.finish, bind_eq_ok_iff, need_eq_ok_iff, pure, Except.pure, Except.ok.injEq]
  constructor
  · rintro ⟨_, rfl, _, rfl, _, rfl, _, rfl, _, rfl, _, rfl, _, rfl, ⟨⟩⟩
    rfl
  · rintro ⟨⟩
    exact ⟨_, rfl, _, rfl, _, rfl, _, rfl, _, rfl, _, rfl, _, rfl, rfl⟩

def Draft.Known (draft : Draft) : Prop := ∀ s ∈ draft.email, Email.accepts s

theorem known_iff (draft' : Draft) :
    draft'.Known ↔ ∃ draft : User.Draft, draft.toPlain = draft' := by
  obtain ⟨id, email, firstName, lastName, isActive, createdAt, updatedAt⟩ := draft'
  constructor
  · intro h
    cases email with
    | none => exact ⟨⟨id, none, firstName, lastName, isActive, createdAt, updatedAt⟩, rfl⟩
    | some s =>
      exact ⟨⟨id, some ⟨s, h s rfl⟩, firstName, lastName, isActive, createdAt, updatedAt⟩, rfl⟩
  · rintro ⟨draft, hdraft⟩ s hs
    rw [← hdraft] at hs
    obtain ⟨e, -, rfl⟩ := Option.map_eq_some_iff.1 hs
    exact e.accepted

end PlainUser

namespace Email

theorem read_iff {input rest : Bytes} : Email.scalar.read input = .ok (e, rest) ↔
    ∃ s, Scalar.text.read input = .ok (s, rest) ∧ Keeps s e := by
  simp only [Scalar.read_eq_ok_iff, accept_iff]
  constructor
  · rintro ⟨_, htoken, s, rfl, hs⟩
    exact ⟨s, ⟨_, htoken, rfl⟩, hs⟩
  · rintro ⟨s, ⟨token, htoken, haccept⟩, hs⟩
    refine ⟨token, htoken, s, ?_, hs⟩
    cases token <;> cases haccept
    rfl

theorem narrows_email : (Json.Member.of "email" Email.scalar User.Draft.email
    fun a d => { d with email := a }).Narrows User.Draft.toPlain
      (.of "email" Scalar.text PlainUser.Draft.email fun a d => { d with email := a }) where
  name := rfl
  isFilled draft := Option.isSome_map
  read draft input draft' rest := by
    rw [Json.Member.read_of_iff, Json.Member.read_of_iff]
    simp only [read_iff]
    constructor
    · rintro ⟨e, ⟨s, hread, hs⟩, rfl⟩
      exact ⟨s, hread, hs.text ▸ rfl⟩
    · rintro ⟨s, hread, heq⟩
      obtain ⟨e, -, rfl⟩ := Option.map_eq_some_iff.1 (congrArg PlainUser.Draft.email heq).symm
      exact ⟨e, ⟨_, hread, keeps_text e⟩, User.toPlain_injective heq⟩

theorem narrows_user : User.record.Narrows User.Draft.toPlain PlainUser.Draft.Known User.toPlain
    PlainUser.record where
  injective := User.toPlain_injective
  known_iff := PlainUser.known_iff
  members := by
    have hinjective := User.toPlain_injective
    refine .cons ?_ (.cons narrows_email ?_)
    on_goal 2 => refine .cons ?_ (.cons ?_ (.cons ?_ (.cons ?_ (.cons ?_ .nil))))
    all_goals exact Json.Member.narrows_of hinjective (fun _ => rfl) fun _ _ => rfl
  reflects := by
    -- Only the email matters, and it is read where there is none.
    have hother {β : Type} {name : String} {scalar : Scalar β} {get : PlainUser.Draft → Option β}
        {set : β → PlainUser.Draft → PlainUser.Draft}
        (h : ∀ b draft, (set b draft).email = draft.email) :
        (Json.Member.of name scalar get set).Reflects PlainUser.Draft.Known := by
      apply Json.Member.reflects_of
      intro b draft _ hknown
      rwa [PlainUser.Draft.Known, h] at hknown
    have hemail : (Json.Member.of "email" Scalar.text PlainUser.Draft.email
        fun a d => { d with email := a }).Reflects PlainUser.Draft.Known := by
      apply Json.Member.reflects_of
      intro b draft hnone _ s hs
      rw [hnone] at hs
      cases hs
    simp only [PlainUser.record, List.forall_mem_cons, List.not_mem_nil, false_implies,
      implies_true, and_true]
    exact ⟨hother fun _ _ => rfl, hemail, hother fun _ _ => rfl, hother fun _ _ => rfl,
      hother fun _ _ => rfl, hother fun _ _ => rfl, hother fun _ _ => rfl⟩
  apart := by
    simp [PlainUser.record, Json.Member.apart_of]
  unfilled := by simp [PlainUser.record, Json.Member.of]
  blank := rfl
  finish _ _ := by
    change User.Draft.finish _ = _ ↔ PlainUser.Draft.finish _ = _
    rw [User.finish_iff, PlainUser.finish_iff, User.toPlain_injective.eq_iff]
  finished _ _ h := (PlainUser.known_iff _).2 ⟨_, (PlainUser.finish_iff.1 h).symm⟩

theorem inView_iff {text : Bytes} {user : User} : User.record.decode text = .ok user ↔
    ∃ plain, PlainUser.record.decode text = .ok plain ∧ Keeps plain.email user.email ∧
      user.toPlain = plain := by
  rw [narrows_user.decode_iff]
  constructor
  · exact fun h => ⟨_, h, keeps_text user.email, rfl⟩
  · rintro ⟨_, h, -, rfl⟩
    exact h

theorem readAlike : ReadAlike where
  written s := by
    have htoken : Json.Lexer.token (Json.Write.text s) = .ok (.text s, []) := by
      rw [← List.append_nil (Json.Write.text s)]
      exact Json.Lexer.token_text s
    obtain ⟨v, hv, hvalue⟩ := Json.Document.value_of_token htoken nofun nofun
    cases v <;> cases hv
    exact Json.Document.whole_eq_ok_iff.2 ⟨[], hvalue, by simp⟩
  decoded _ _ := decode_iff
  inView _ _ := inView_iff
  inPayload name := by
    simp only [List.forall_mem_cons, List.not_mem_nil, false_implies, implies_true, and_true]
    exact ⟨fun r _ => inPayload_iff (PayloadReader.passes_required name _) r,
      fun r _ => inPayload_iff (PayloadReader.passes_optional name _) r⟩

/-- A text is an email if it is short enough and has the form of an address, and wherever an email
is read, it is read from such texts and from nothing else. -/
theorem exactly_addresses : (∀ s, Classified s) ∧ ReadAlike := ⟨classified, readAlike⟩

end Email

end Bulletin
