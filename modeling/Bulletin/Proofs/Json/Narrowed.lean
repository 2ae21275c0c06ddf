import Bulletin.Proofs.Json.Record

/-!
Two records that read the same texts, but that one of them takes fewer values for a member. Then it
reads the texts that the other one reads, where it has the value that they come to.
-/

namespace Bulletin.Json

variable {δ δ' α α' β : Type} {input rest text : Bytes}

variable {π : δ → δ'} {Known : δ' → Prop} {f : α → α'}

/-- The one member reads what the other one does, where a draft of the narrower record comes of
it. -/
structure Member.Narrows (π : δ → δ') (m : Member δ) (m' : Member δ') : Prop where
  name : m'.name = m.name
  isFilled : ∀ draft, m'.isFilled (π draft) = m.isFilled draft
  read : ∀ draft input draft' rest,
    m.read draft input = .ok (draft', rest) ↔ m'.read (π draft) input = .ok (π draft', rest)

def Member.Reflects (Known : δ → Prop) (m : Member δ) : Prop :=
  ∀ draft input draft' rest, m.isFilled draft = false → m.read draft input = .ok (draft', rest) →
    Known draft' → Known draft

def Member.Apart (m k : Member δ) : Prop :=
  ∀ draft input draft' rest, m.read draft input = .ok (draft', rest) →
    k.isFilled draft' = k.isFilled draft

namespace Member

variable {name name' : String} {scalar : Scalar β}
variable {get : δ → Option β} {set : β → δ → δ} {get' : δ' → Option β} {set' : β → δ' → δ'}
variable {draft draft' : δ}

theorem narrows_of (hπ : Function.Injective π) (hget : ∀ draft, get' (π draft) = get draft)
    (hset : ∀ b draft, π (set b draft) = set' b (π draft)) :
    (Member.of name scalar get set).Narrows π (.of name scalar get' set') where
  name := rfl
  isFilled draft := congrArg Option.isSome (hget draft)
  read draft input draft' rest := by
    simp only [read_of_iff, ← hset, hπ.eq_iff]

theorem reflects_of {Known : δ → Prop}
    (h : ∀ b draft, get draft = none → Known (set b draft) → Known draft) :
    (Member.of name scalar get set).Reflects Known := by
  intro draft input draft' rest hunfilled hread hknown
  obtain ⟨b, -, rfl⟩ := read_of_iff.1 hread
  exact h b draft (by simpa [Member.of] using hunfilled) hknown

theorem apart_of {γ : Type} {scalar' : Scalar γ} {get' : δ → Option γ} {set' : γ → δ → δ}
    (h : ∀ b draft, get' (set b draft) = get' draft) :
    (Member.of name scalar get set).Apart (.of name' scalar' get' set') := by
  intro draft input draft' rest hread
  obtain ⟨b, -, rfl⟩ := read_of_iff.1 hread
  exact congrArg Option.isSome (h b draft)

end Member

namespace Record

/-- The drafts of one record stand for the drafts of another that are known. -/
structure Narrows (π : δ → δ') (Known : δ' → Prop) (f : α → α') (r : Record δ α)
    (r' : Record δ' α') : Prop where
  injective : Function.Injective π
  known_iff : ∀ draft', Known draft' ↔ ∃ draft, π draft = draft'
  members : List.Forall₂ (Member.Narrows π) r.members r'.members
  reflects : ∀ m ∈ r'.members, m.Reflects Known
  apart : r'.members.Pairwise Member.Apart
  unfilled : ∀ m ∈ r'.members, m.isFilled r'.blank = false
  blank : π r.blank = r'.blank
  finish : ∀ draft a, r.finish draft = .ok a ↔ r'.finish (π draft) = .ok (f a)
  finished : ∀ draft' a, r'.finish draft' = .ok (f a) → Known draft'

theorem find?_narrows {ms : List (Member δ)} {ms' : List (Member δ')}
    (h : List.Forall₂ (Member.Narrows π) ms ms') (name : String) :
    Option.Rel (Member.Narrows π) (ms.find? (·.name = name)) (ms'.find? (·.name = name)) := by
  induction h with
  | nil => exact .none
  | cons hm _ ih =>
    rw [List.find?_cons, List.find?_cons, hm.name]
    split
    · exact .some hm
    · exact ih

namespace Narrows

variable {r : Record δ α} {r' : Record δ' α'} {size n i : Nat} {first : Bool} {a : α}
variable {draft last : δ} {draft' last' : δ'} {ms : List (Member δ)} {ms' : List (Member δ')}
variable (h : r.Narrows π Known f r')
include h

theorem known (draft : δ) : Known (π draft) := (h.known_iff _).2 ⟨draft, rfl⟩

theorem fillMember_reflects (hread : r'.fillMember size draft' input = .ok (last', rest))
    (hlast : Known last') : Known draft' := by
  obtain ⟨name, after, value, -, -, hmember⟩ := fillMember_eq_ok_iff.1 hread
  split at hmember
  case h_1 m hfind =>
    exact h.reflects m (List.mem_of_find?_eq_some hfind) _ _ _ _ hmember.1 hmember.2 hlast
  case h_2 => exact hmember.1 ▸ hlast

theorem fillMember_iff : r.fillMember size draft input = .ok (last, rest) ↔
    r'.fillMember size (π draft) input = .ok (π last, rest) := by
  rw [fillMember_eq_ok_iff, fillMember_eq_ok_iff]
  refine exists_congr fun name => exists_congr fun after => exists_congr fun value => ?_
  refine and_congr_right fun _ => and_congr_right fun _ => ?_
  have hfind := find?_narrows h.members name
  generalize r.members.find? (·.name = name) = m? at hfind ⊢
  generalize r'.members.find? (·.name = name) = m?' at hfind ⊢
  cases hfind with
  | none => rw [h.injective.eq_iff]
  | some hm =>
    dsimp only
    rw [hm.isFilled, hm.read]

theorem fill_reflects (hfill : r'.fill size n first draft' input = .ok (last', rest))
    (hlast : Known last') : Known draft' := by
  induction n generalizing first draft' input with
  | zero => cases hfill
  | succ n ih =>
    unfold fill at hfill
    split at hfill
    case h_1 => cases hfill
    case h_2 =>
      cases hfill
      exact hlast
    case h_3 =>
      split at hfill
      case h_1 => cases hfill
      case h_2 hmember => exact h.fillMember_reflects hmember (ih hfill)

theorem fill_iff : r.fill size n first draft input = .ok (last, rest) ↔
    r'.fill size n first (π draft) input = .ok (π last, rest) := by
  induction n generalizing first draft input with
  | zero => exact ⟨nofun, nofun⟩
  | succ n ih =>
    unfold fill
    split
    case h_1 => exact ⟨nofun, nofun⟩
    case h_2 => simp only [Except.ok.injEq, Prod.mk.injEq, h.injective.eq_iff]
    case h_3 =>
      constructor
      · intro hfill
        split at hfill
        case h_1 => cases hfill
        case h_2 hmember =>
          rw [h.fillMember_iff.1 hmember]
          exact ih.1 hfill
      · intro hfill
        split at hfill
        case h_1 => cases hfill
        case h_2 hmember =>
          -- What comes to a known draft in the end has come through known drafts.
          obtain ⟨next, rfl⟩ := (h.known_iff _).1 (h.fill_reflects hfill (h.known last))
          rw [h.fillMember_iff.2 hmember]
          exact ih.2 hfill

theorem fillInOrder_reflects (hms : ∀ m ∈ ms', m ∈ r'.members) (hapart : ms'.Pairwise Member.Apart)
    (hunfilled : ∀ m ∈ ms', m.isFilled draft' = false)
    (hfill : r'.fillInOrder ms' i draft' input = .ok (last', rest)) (hlast : Known last') :
    Known draft' := by
  induction ms' generalizing i draft' input with
  | nil =>
    unfold fillInOrder at hfill
    cases hend : Lexer.endList input with
    | error e =>
      rw [hend] at hfill
      cases hfill
    | ok after =>
      rw [hend] at hfill
      cases hfill
      exact hlast
  | cons m ms' ih =>
    obtain ⟨hm, hms⟩ := List.forall_mem_cons.1 hms
    obtain ⟨hfree, hunfilled⟩ := List.forall_mem_cons.1 hunfilled
    obtain ⟨hothers, hapart⟩ := List.pairwise_cons.1 hapart
    unfold fillInOrder at hfill
    split at hfill
    case h_1 => cases hfill
    case h_2 => cases hfill
    case h_3 =>
      split at hfill
      case h_1 => cases hfill
      case h_2 hread =>
        refine h.reflects m hm _ _ _ _ hfree hread (ih hms hapart (fun k hk => ?_) hfill)
        exact (hothers k hk _ _ _ _ hread).trans (hunfilled k hk)

theorem fillInOrder_iff (hnarrows : List.Forall₂ (Member.Narrows π) ms ms')
    (hms : ∀ m ∈ ms', m ∈ r'.members) (hapart : ms'.Pairwise Member.Apart)
    (hunfilled : ∀ m ∈ ms', m.isFilled (π draft) = false) :
    r.fillInOrder ms i draft input = .ok (last, rest) ↔
      r'.fillInOrder ms' i (π draft) input = .ok (π last, rest) := by
  induction hnarrows generalizing i draft input with
  | nil =>
    unfold fillInOrder
    cases Lexer.endList input with
    | error e => simp [Except.map]
    | ok after => simp only [Except.map, Except.ok.injEq, Prod.mk.injEq, h.injective.eq_iff]
  | @cons m m' ms ms' hm _ ih =>
    obtain ⟨-, hms⟩ := List.forall_mem_cons.1 hms
    obtain ⟨-, hunfilled⟩ := List.forall_mem_cons.1 hunfilled
    obtain ⟨hothers, hapart⟩ := List.pairwise_cons.1 hapart
    unfold fillInOrder
    split
    case h_1 => simp
    case h_2 => simp
    case h_3 after _ =>
      have hnext {next' : δ'} {input : Bytes}
          (hread : m'.read (π draft) after = .ok (next', input)) :
          ∀ k ∈ ms', k.isFilled next' = false := fun k hk =>
        (hothers k hk _ _ _ _ hread).trans (hunfilled k hk)
      constructor
      · intro hfill
        split at hfill
        case h_1 => cases hfill
        case h_2 hread =>
          have hread' := (hm.read _ _ _ _).1 hread
          rw [hread']
          exact (ih hms hapart (hnext hread')).1 hfill
      · intro hfill
        split at hfill
        case h_1 => cases hfill
        case h_2 hread' =>
          obtain ⟨next, rfl⟩ := (h.known_iff _).1
            (h.fillInOrder_reflects hms hapart (hnext hread') hfill (h.known last))
          rw [(hm.read _ _ _ _).2 hread']
          exact (ih hms hapart (hnext hread')).2 hfill

theorem drafts_iff : r.Drafts size input draft rest ↔ r'.Drafts size input (π draft) rest := by
  have hunfilled : ∀ m ∈ r'.members, m.isFilled (π r.blank) = false := by
    rw [h.blank]
    exact h.unfilled
  unfold Drafts
  rw [← h.blank]
  apply or_congr
  · exact exists_congr fun _ => and_congr_right fun _ => h.fill_iff
  · exact exists_congr fun _ => and_congr_right fun _ =>
      h.fillInOrder_iff h.members (fun _ hm => hm) h.apart hunfilled

theorem read_iff : r.read size input = .ok (a, rest) ↔ r'.read size input = .ok (f a, rest) := by
  rw [read_eq_ok_iff, read_eq_ok_iff]
  constructor
  · rintro ⟨draft, hdraft, hfinish⟩
    exact ⟨π draft, h.drafts_iff.1 hdraft, (h.finish draft a).1 hfinish⟩
  · rintro ⟨draft', hdraft, hfinish⟩
    obtain ⟨draft, rfl⟩ := (h.known_iff _).1 (h.finished _ _ hfinish)
    exact ⟨draft, h.drafts_iff.2 hdraft, (h.finish draft a).2 hfinish⟩

theorem decode_iff : r.decode text = .ok a ↔ r'.decode text = .ok (f a) := by
  simp only [decode, Document.whole_eq_ok_iff, h.read_iff]

end Narrows

end Record

end Bulletin.Json
