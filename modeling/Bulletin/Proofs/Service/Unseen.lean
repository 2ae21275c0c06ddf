import Bulletin.Proofs.Service.Unchanged
import Bulletin.Proofs.View.Judged
import Bulletin.Service.Input
import Bulletin.Sql.Sent

namespace Bulletin

open Json (Scalar)

variable {α : Type} {payload payload' : Json.Members} {names : List String}

theorem Json.Members.get?_of_under {name : String} (h : payload.under names = payload'.under names)
    (hname : name ∈ names) :
    (payload.get? name).map Json.token = (payload'.get? name).map Json.token :=
  List.map_inj_left.1 h name hname

theorem Field.ofValue_congr {field : Field α} {value value' : Json}
    (h : value.token = value'.token) : field.ofValue value = field.ofValue value' := by
  cases value <;> cases value' <;> cases h <;> rfl

theorem Field.judge_of_under (field : Field α) (mode : Intent)
    (h : payload.under names = payload'.under names) (hname : field.name ∈ names) :
    field.judge mode payload = field.judge mode payload' := by
  have htoken := Json.Members.get?_of_under h hname
  cases hget : payload.get? field.name with
  | none =>
    rw [hget] at htoken
    exact judge_congr (hget.trans (Option.map_eq_none_iff.1 htoken.symm).symm)
  | some value =>
    rw [hget] at htoken
    obtain ⟨value', hget', heq⟩ := Option.map_eq_some_iff.1 htoken.symm
    rw [judge_given hget, judge_given hget', ofValue_congr heq.symm]

namespace PayloadReader

section User

variable (h : payload.under View.user.writable = payload'.under View.user.writable)
include h

theorem parse_user_of_under (mode : Intent) {form : Form α} (hview : form.view = .user)
    {make : Option Email → Option String → Option String → Option Bool → Option α}
    (hread : form.read = do
      return make (← required Email.scalar "email") (← text "first_name" nameMaxLength)
        (← text "last_name" nameMaxLength) (← optional Scalar.flag "is_active")) :
    form.parse mode payload = form.parse mode payload' := by
  have hemail := Field.email.judge_of_under mode h (by decide)
  have hfirst := Field.firstName.judge_of_under mode h (by decide)
  have hlast := Field.lastName.judge_of_under mode h (by decide)
  have hactive := Field.isActive.judge_of_under mode h (by decide)
  rw [parse_user mode payload hview hread, parse_user mode payload' hview hread]
  simp only [userOffences, Field.offence, Field.value?, hemail, hfirst, hlast, hactive]

theorem newUser_of_under (mode : Intent) :
    Form.newUser.parse mode payload = Form.newUser.parse mode payload' :=
  parse_user_of_under h mode rfl rfl

theorem userChanges_of_under (mode : Intent) :
    Form.userChanges.parse mode payload = Form.userChanges.parse mode payload' :=
  parse_user_of_under h mode rfl rfl

end User

section Post

variable (h : payload.under View.post.writable = payload'.under View.post.writable)
include h

theorem parse_post_of_under (mode : Intent) {form : Form α}
    (hview : form.view.writable = View.post.writable)
    {make : Option String → Option String → Option UserId → Option Bool → Option α}
    (hread : form.read = do
      return make (← text "title" titleMaxLength) (← text "content" none)
        (← required Id.scalar "author") (← optional Scalar.flag "published")) :
    form.parse mode payload = form.parse mode payload' := by
  have htitle := Field.title.judge_of_under mode h (by decide)
  have hcontent := Field.content.judge_of_under mode h (by decide)
  have hauthor := Field.author.judge_of_under mode h (by decide)
  have hpublished := Field.published.judge_of_under mode h (by decide)
  rw [parse_post mode payload hview hread, parse_post mode payload' hview hread]
  simp only [postOffences, Field.offence, Field.value?, htitle, hcontent, hauthor, hpublished]

theorem newPost_of_under (mode : Intent) :
    Form.newPost.parse mode payload = Form.newPost.parse mode payload' :=
  parse_post_of_under h mode rfl rfl

theorem postChanges_of_under (mode : Intent) :
    Form.postChanges.parse mode payload = Form.postChanges.parse mode payload' :=
  parse_post_of_under h mode rfl rfl

end Post

end PayloadReader

namespace Handler

theorem createUser_of_under
    (h : payload.under View.user.writable = payload'.under View.user.writable) :
    createUser payload = createUser payload' := by
  unfold createUser parse
  rw [PayloadReader.newUser_of_under h]

theorem updateUser_of_under (mode : Intent) (id : UserId)
    (h : payload.under View.user.writable = payload'.under View.user.writable) :
    updateUser mode id payload = updateUser mode id payload' := by
  unfold updateUser parse
  rw [PayloadReader.userChanges_of_under h]

theorem createPost_of_under
    (h : payload.under View.postCreate.writable = payload'.under View.postCreate.writable) :
    createPost payload = createPost payload' := by
  unfold createPost parse
  rw [PayloadReader.newPost_of_under h]

theorem updatePost_of_under (mode : Intent) (id : PostId)
    (h : payload.under View.post.writable = payload'.under View.post.writable) :
    updatePost mode id payload = updatePost mode id payload' := by
  unfold updatePost parse
  rw [PayloadReader.postChanges_of_under h]

end Handler

namespace Service

variable {request request' : Request}

section Requests

variable (hmethod : request.method = request'.method) (huri : request.uri = request'.uri)
variable (hpayload : Service.payload request = .ok payload)
variable (hpayload' : Service.payload request' = .ok payload')
variable (h : ∀ view ∈ request.input?,
  payload.under view.writable = payload'.under view.writable)
include hpayload hpayload'

omit h in
theorem withPayload_congr {handler : Json.Members → Handler α}
    (hhandler : handler payload = handler payload') :
    withPayload request handler = withPayload request' handler := by
  rw [withPayload, withPayload, hpayload, hpayload']
  exact hhandler

omit h in
theorem withId_congr {entity : Entity} {handler : Id entity → Json.Members → Handler α}
    (segment : String) (hhandler : ∀ id, handler id payload = handler id payload') :
    withId segment (fun id => withPayload request (handler id)) =
      withId segment fun id => withPayload request' (handler id) := by
  apply congrArg (withId segment)
  funext id
  exact withPayload_congr hpayload hpayload' (hhandler id)

include h

theorem serve_of_under {route : Route} {verb? : Option Verb}
    (hroute : Route.ofPath? request.uri.path = some route)
    (hverb : Verb.ofMethod? request.method = verb?) :
    serve request route verb? = serve request' route verb? := by
  rw [Request.input?, Request.action?, hroute, hverb] at h
  cases verb? with
  | none => cases route <;> rfl
  | some verb =>
    cases route with
    | users => cases verb with
      | post =>
        exact withPayload_congr hpayload hpayload' (Handler.createUser_of_under (h .user rfl))
      | _ => rfl
    | user s => cases verb with
      | put =>
        exact withId_congr hpayload hpayload' s fun id =>
          Handler.updateUser_of_under .replace id (h .user rfl)
      | patch =>
        exact withId_congr hpayload hpayload' s fun id =>
          Handler.updateUser_of_under .patch id (h .user rfl)
      | _ => rfl
    | userPosts s => cases verb <;> rfl
    | posts => cases verb with
      | post =>
        exact withPayload_congr hpayload hpayload' (Handler.createPost_of_under (h .postCreate rfl))
      | _ => rfl
    | post s => cases verb with
      | put =>
        exact withId_congr hpayload hpayload' s fun id =>
          Handler.updatePost_of_under .replace id (h .post rfl)
      | patch =>
        exact withId_congr hpayload hpayload' s fun id =>
          Handler.updatePost_of_under .patch id (h .post rfl)
      | _ => rfl

include hmethod huri

theorem handle_of_under : handle request = handle request' := by
  unfold handle
  rw [← hmethod, ← huri]
  split
  case h_1 route hroute => exact serve_of_under hpayload hpayload' h hroute rfl
  case h_2 => rfl

theorem respond_of_under : respond request = respond request' := by
  have htrimmed : trimmed request = trimmed request' := by
    funext response
    rw [trimmed, trimmed, hmethod]
  unfold respond
  rw [handle_of_under hmethod huri hpayload hpayload' h, htrimmed]

end Requests

/-- Members outside the view that a request writes have no influence: two requests that agree on all
others get the same response and leave the same store, and a database is sent the same statements
with the same parameters as long as it replies the same. -/
theorem indifferent_to_unwritable (request request' : Request) (payload payload' : Json.Members)
    (hmethod : request.method = request'.method) (huri : request.uri = request'.uri)
    (hpayload : Service.payload request = .ok payload)
    (hpayload' : Service.payload request' = .ok payload')
    (h : ∀ view ∈ request.input?, payload.under view.writable = payload'.under view.writable) :
    (∀ (now : Timestamp) (m : Memory), m.answer now request = m.answer now request') ∧
    ∀ (σ : Type) (reply : (s : Sql.Statement) → σ → s.Reply × σ) (state : σ),
      Sql.Client.sent reply state (respond request) =
        Sql.Client.sent reply state (respond request') ∧
      Sql.Client.outcome reply state (respond request) =
        Sql.Client.outcome reply state (respond request') := by
  have hrespond := respond_of_under hmethod huri hpayload hpayload' h
  refine ⟨fun now m => ?_, fun σ reply state => ?_⟩
  · rw [Memory.answer, Memory.answer, hrespond]
  · rw [hrespond]
    exact ⟨rfl, rfl⟩

def paddedAda : Request := { Memory.newAda with
  contentType := some "application/vnd.api+json; charset=utf-8"
  body := utf8 ("\x7b\"id\": 7, \"last_name\": \"King\", \"created_at\": [\x7b\x7d, null], "
    ++ "\"email\": \"ada@example.com\", \"author_name\": \"Eve\", \"first_name\": \"Ada\"\x7d") }

theorem read_of_under (request : Request) (length : Nat) (values : List (Option Json.Token))
    (h : (Service.payload request).toOption.map (fun payload =>
      (payload.length, payload.under View.user.writable)) = some (length, values)) :
    ∃ payload, Service.payload request = .ok payload ∧ payload.length = length ∧
      payload.under View.user.writable = values := by
  cases hpayload : Service.payload request with
  | error fault =>
    rw [hpayload] at h
    cases h
  | ok payload =>
    rw [hpayload] at h
    exact ⟨payload, rfl, Prod.mk.inj (Option.some.inj h)⟩

theorem indifferent_paddedAda : ∃ payload payload',
    Service.payload Memory.newAda = .ok payload ∧ Service.payload paddedAda = .ok payload' ∧
    payload.length = 3 ∧ payload'.length = 6 ∧
    payload.under View.user.writable = payload'.under View.user.writable ∧
    (∀ (now : Timestamp) (m : Memory), m.answer now Memory.newAda = m.answer now paddedAda) ∧
    ∀ (σ : Type) (reply : (s : Sql.Statement) → σ → s.Reply × σ) (state : σ),
      Sql.Client.sent reply state (respond Memory.newAda) =
        Sql.Client.sent reply state (respond paddedAda) ∧
      Sql.Client.outcome reply state (respond Memory.newAda) =
        Sql.Client.outcome reply state (respond paddedAda) := by
  obtain ⟨payload, hpayload, hlength, hunder⟩ := read_of_under Memory.newAda 3
    [some (.text "ada@example.com"), some (.text "Ada"), some (.text "King"), none]
    (by decide +kernel)
  obtain ⟨payload', hpayload', hlength', hunder'⟩ := read_of_under paddedAda 6
    [some (.text "ada@example.com"), some (.text "Ada"), some (.text "King"), none]
    (by decide +kernel)
  have hagree := hunder.trans hunder'.symm
  refine ⟨payload, payload', hpayload, hpayload', hlength, hlength', hagree, ?_⟩
  apply indifferent_to_unwritable Memory.newAda paddedAda payload payload' rfl rfl
    hpayload hpayload'
  intro view hview
  have hinput : Memory.newAda.input? = some .user := by decide +kernel
  rw [hinput] at hview
  cases hview
  exact hagree

end Service

end Bulletin
