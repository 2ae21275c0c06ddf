import Bulletin.Proofs.Json.Document
import Bulletin.Proofs.Json.Natural
import Bulletin.Proofs.Service.Path
import Bulletin.Proofs.Sql.Kept
import Bulletin.Proofs.Sql.Refused
import Bulletin.Proofs.View.Judged
import Bulletin.Service.Identity

namespace Bulletin

open Sql Json

variable {entity : Entity}

namespace Sql

namespace Param

@[simp] theorem integer?_integer (n : Int64) : (integer n).integer? = some n := rfl

@[simp] theorem integer?_text (s : Option String) : (Statement.orNull text s).integer? = none := by
  cases s <;> rfl

@[simp] theorem integer?_flag (b : Option Bool) : (Statement.orNull flag b).integer? = none := by
  cases b <;> rfl

@[simp] theorem integer?_orNull (n : Option Int64) :
    (Statement.orNull integer n).integer? = n := by
  cases n <;> rfl

end Param

namespace Client

variable {σ : Type} (reply : (s : Statement) → σ → s.Reply × σ) (state : σ)

theorem integers_of_mem_statements {c : Call} :
    ∀ s ∈ statements c, s.integers = c.ids.map UInt64.toInt64 := by
  cases c with
  | listUsers | fetchUser | createUser | deleteUser => exact List.forall_mem_singleton.2 rfl
  | listPosts | fetchPost | createPost | deletePost => exact List.forall_mem_singleton.2 rfl
  | fetchUserPosts id => exact List.forall_mem_cons.2 ⟨rfl, List.forall_mem_singleton.2 rfl⟩
  | updateUser id changes =>
    refine List.forall_mem_singleton.2 ?_
    simp [Statement.integers, Statement.params, Call.ids, Id.toRow]
  | updatePost id changes =>
    refine List.forall_mem_singleton.2 ?_
    cases hauthor : changes.author <;>
      simp [Statement.integers, Statement.params, Call.ids, Id.toRow, hauthor]

theorem binds_ids (c : Call) : BindsIds reply state c where
  sends := by cases c <;> exact List.cons_ne_nil _ _
  integers _ hx := integers_of_mem_statements _ (statement_mem hx)

end Client

end Sql

namespace Id

variable {id : Id entity} {text : Bytes}

theorem accept_iff {token : Token} :
    (Id.scalar : Scalar (Id entity)).accept token = .ok id ↔
      token = .number (.natural id.number) := by
  constructor
  · intro h
    change (Scalar.natural.accept token).map Id.mk = _ at h
    unfold Scalar.natural at h
    dsimp only at h
    split at h <;> cases h
    rfl
  · rintro rfl
    rfl

theorem decode_iff : Id.scalar.decode text = .ok id ↔ id.Spelled text := by
  simp only [Scalar.decode_eq_ok_iff, accept_iff]
  constructor
  · rintro ⟨_, rest, htoken, rfl, hrest⟩
    obtain ⟨before, s, hbefore, hs, rfl⟩ := Lexer.of_token htoken
    refine ⟨s, hs, before, rest, ?_, (List.append_assoc _ _ _).symm⟩
    rw [List.forall_mem_append]
    exact ⟨hbefore, hrest⟩
  · rintro ⟨s, hs, before, rest, hblanks, rfl⟩
    rw [List.forall_mem_append] at hblanks
    refine ⟨_, rest, ?_, rfl, hblanks.2⟩
    rw [Lexer.token_natural_iff (Lexer.ends_of_isBlank hblanks.2)]
    exact ⟨before, s, hblanks.1, hs, List.append_assoc _ _ _⟩

theorem decimal (id : Id entity) : id.Decimal where
  decoded _ := decode_iff
  read _ := (Scalar.read_iff_decode (fun h => nomatch accept_iff.1 h)
    fun h => nomatch accept_iff.1 h).trans decode_iff
  written _ hs := hs.utf8_eq.symm

theorem canonical_toString (id : Id entity) :
    Numeral.Canonical (toString id) id.number.toNat :=
  Numeral.canonical_iff.2 rfl

theorem spelled_write (id : Id entity) : id.Spelled id.write :=
  ⟨toString id, canonical_toString id, [], [], by simp, by
    rw [List.append_nil]
    exact (canonical_toString id).utf8_eq.symm⟩

theorem readable (id : Id entity) : id.Readable where
  shown := (canonical_toString id).utf8_eq
  segment s hs := by
    have hs : s = toString id := utf8_injective (hs.trans (canonical_toString id).utf8_eq.symm)
    rw [hs]
    exact Segment.idOfSegment_of_names (names_id id)

theorem readAs (id : UserId) : id.ReadAs (.number (.natural id.number)) where
  required r hr := by
    have hrun := PayloadReader.passes_required "author" (Id.scalar : Scalar UserId) r
    rw [Field.judge_given hr] at hrun
    exact ⟨_, hrun, rfl⟩
  newPost mode payload new hpayload hparse := by
    have hauthor : Field.author.value? mode payload = some id := by
      rw [Field.value?, Field.judge_given hpayload]
      rfl
    obtain ⟨-, hnew⟩ := (judged_newPost mode payload).of_ok hparse
    rw [hauthor] at hnew
    simp only [Option.bind_eq_bind, Option.bind_eq_some_iff] at hnew
    obtain ⟨_, -, _, -, _, hid, heq⟩ := hnew
    cases hid
    cases heq
    rfl
  changes mode payload changes hpayload hparse := by
    have hauthor : Field.author.value? mode payload = some id := by
      rw [Field.value?, Field.judge_given hpayload]
      rfl
    obtain ⟨-, hchanges⟩ := (judged_postChanges mode payload).of_ok hparse
    cases hchanges
    exact hauthor

theorem readableAuthor (id : UserId) : id.ReadableAuthor := by
  refine ⟨_, ?_, readAs id, ?_⟩
  · obtain ⟨value, hread, haccept⟩ := ((decimal id).read id.write).2 (spelled_write id)
    have htoken := accept_iff.1 haccept
    cases value <;> cases htoken
    exact hread
  · exact readObject_written (.cons (spelled_natural _ id.number) .nil)

theorem standsFor_ofRow (row : Int64) : StandsFor row where
  user record user hrecord huser := by
    cases hemail : Email.ofText record.email with
    | error e =>
      rw [UserRecord.toUser, hemail] at huser
      cases huser
    | ok email =>
      rw [UserRecord.toUser, hemail] at huser
      cases huser
      exact congrArg ofRow hrecord
  post _ hrecord := congrArg ofRow hrecord
  author _ hrecord := congrArg ofRow hrecord
  readable _ := readable _
  readableAuthor := readableAuthor _
  bound _ := toRow_ofRow row

/-- An id keeps its identity in all of its forms. The number of a row comes back from whatever is
shown for it, no two ids share a row, and as JSON an id is its canonical numeral and nothing
else. -/
theorem keeps_identity :
    (∀ row : Int64, StandsFor row) ∧
    (∀ (σ : Type) (reply : (s : Statement) → σ → s.Reply × σ) (state : σ) (c : Call),
      Client.BindsIds reply state c) ∧
    (∀ (entity : Entity) (id : Id entity), ofRow id.toRow = id) ∧
    (∀ entity : Entity, Function.Injective (toRow : Id entity → Int64)) ∧
    ∀ (entity : Entity) (id : Id entity), id.Decimal :=
  ⟨standsFor_ofRow, fun _ => Client.binds_ids, fun _ => ofRow_toRow, fun _ _ _ => toRow_inj.1,
    fun _ => decimal⟩

end Id

end Bulletin
