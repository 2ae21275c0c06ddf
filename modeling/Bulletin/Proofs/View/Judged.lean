import Bulletin.Proofs.View.Taking
import Bulletin.View.Judgement

/-!
Forms judge every field by itself. The reader passes the fields one after another; what it has taken
out and noted before has no influence on the next.
-/

namespace Bulletin

open Json (Scalar)

variable {α : Type}

namespace Field

variable {field : Field α} {mode : Intent} {payload payload' : Json.Members}

theorem judge_congr (h : payload.get? field.name = payload'.get? field.name) :
    field.judge mode payload = field.judge mode payload' := by
  rw [judge, judge, h]

theorem judge_given {value : Json} (h : payload.get? field.name = some value) :
    field.judge mode payload = field.ofValue value := by
  rw [judge, h]

theorem judge_spared (h : payload.get? field.name = none) (hmay : field.hasDefault ∨ mode = .patch) :
    field.judge mode payload = .absent := by
  rw [judge, h]
  exact if_pos hmay

theorem judge_missing (h : payload.get? field.name = none)
    (hmust : ¬ (field.hasDefault ∨ mode = .patch)) :
    field.judge mode payload = .offends "This field is required." := by
  rw [judge, h]
  exact if_neg hmust

theorem ofValue_ne_absent (value : Json) : field.ofValue value ≠ .absent := by
  cases value with
  | null => exact nofun
  | _ =>
    simp only [ofValue]
    split
    · exact nofun
    split <;> exact nofun

theorem value?_eq_none_iff (hrequired : field.hasDefault = false)
    (h : (field.judge mode payload).offence? = none) :
    field.value? mode payload = none ↔ mode = .patch ∧ payload.get? field.name = none := by
  cases hget : payload.get? field.name with
  | none =>
    by_cases hmay : field.hasDefault ∨ mode = .patch
    · rw [value?, judge_spared hget hmay]
      simpa [hrequired, Verdict.value?] using hmay
    · rw [judge_missing hget hmay] at h
      cases h
  | some value =>
    rw [judge_given hget] at h
    rw [value?, judge_given hget]
    cases hvalue : field.ofValue value with
    | absent => exact absurd hvalue (ofValue_ne_absent value)
    | offends message =>
      rw [hvalue] at h
      cases h
    | reads a => simp [Verdict.value?]

end Field

theorem offences_eq_nil_iff {fields : List (String × Option String)} :
    offences fields = [] ↔ ∀ field ∈ fields, field.2 = none := by
  simp [offences, List.filterMap_eq_nil_iff]

theorem Judged.of_ok {result : Except FieldErrors α} {offences : List (String × List String)}
    {missing : Prop} {value? : Option α} {a : α} (h : Judged result offences missing value?)
    (hok : result = .ok a) : offences = [] ∧ value? = some a := by
  subst hok
  by_cases hnil : offences = []
  · by_cases hmissing : missing
    · cases h.incomplete hnil hmissing
    · obtain ⟨b, hvalue, hb⟩ := h.accepted hnil hmissing
      cases hb
      exact ⟨hnil, hvalue⟩
  · cases h.offended hnil

namespace PayloadReader

/-- A reading passes a field as it is judged in what is left of the payload. -/
def Passes (field : Field α) (reading : Reading (Option α)) : Prop :=
  ∀ r, reading.run r = ((field.judge r.mode r.fields).value?,
    r.pass field.name (field.judge r.mode r.fields).offence?)

theorem passes_reading {field : Field α} {t : Take α} (hname : t.name = field.name)
    (hlack : ∀ mode, t.MayLack mode ↔ field.hasDefault ∨ mode = .patch)
    (hvalue : ∀ value, (field.ofValue value).value? = t.reads value ∧
      (field.ofValue value).offence? = t.fault? value) : Passes field t.reading := by
  intro r
  rw [run_reading, hname]
  cases hget : r.fields.get? field.name with
  | some value =>
    rw [Field.judge_given hget, (hvalue value).1, (hvalue value).2]
    rfl
  | none =>
    by_cases hmay : t.MayLack r.mode
    · rw [Field.judge_spared hget ((hlack _).1 hmay), Take.offence?_spared hmay]
      rfl
    · rw [Field.judge_missing hget (mt (hlack _).2 hmay), Take.offence?_missing hmay]
      rfl

theorem passes_optional (name : String) (scalar : Scalar α) :
    Passes { name, scalar, hasDefault := true } (optional scalar name) := by
  apply passes_reading (t := .optional (decoder scalar) name) rfl fun mode => by simp [Take.MayLack]
  intro value
  cases value with
  | null => exact ⟨rfl, rfl⟩
  | _ =>
    simp only [Field.ofValue, Take.reads, Take.fault?, decoder]
    cases scalar.ofJson _ <;> exact ⟨rfl, rfl⟩

theorem passes_required (name : String) (scalar : Scalar α) :
    Passes { name, scalar } (required scalar name) := by
  apply passes_reading (t := .required (decoder scalar) name) rfl fun mode => by simp [Take.MayLack]
  intro value
  cases value with
  | null => exact ⟨rfl, rfl⟩
  | _ =>
    simp only [Field.ofValue, Take.reads, Take.fault?, decoder]
    cases scalar.ofJson _ <;> exact ⟨rfl, rfl⟩

theorem text_scalar (name : String) (max : Option Nat) :
    (Field.text name max).scalar = Scalar.text := rfl

theorem checkText_eq (name : String) (max : Option Nat) (s : String) :
    checkText max s = (Field.text name max).check s := by
  simp only [checkText, Field.text, String.isEmpty_iff]
  by_cases hblank : Text.trim s = ""
  · rw [if_pos hblank, if_pos hblank]
  · rw [if_neg hblank, if_neg hblank]
    cases max with
    | none => rfl
    | some max => by_cases hlong : max < (Text.trim s).length <;> simp [Option.filter, hlong]

theorem passes_text (name : String) (max : Option Nat) :
    Passes (Field.text name max) (text name max) := by
  apply passes_reading (t := .text name max) rfl fun mode => by simp [Take.MayLack, Field.text]
  intro value
  cases value with
  | text s =>
    have hdecode : Scalar.text.ofJson (.text s) = .ok s := rfl
    simp only [Field.ofValue, Take.reads, Take.fault?, decoder, text_scalar, hdecode,
      Except.mapError]
    rw [checkText_eq name]
    cases (Field.text name max).check s <;> exact ⟨rfl, rfl⟩
  | _ => exact ⟨rfl, rfl⟩

/-- The fields that are still to be read stand in the reader as in the payload. -/
structure Sees (mode : Intent) (payload : Json.Members) (names : List String)
    (errors : FieldErrors) (r : PayloadReader) : Prop where
  mode : r.mode = mode
  fields : ∀ name ∈ names, r.fields.get? name = payload.get? name
  errors : r.errors = errors

variable {mode : Intent} {payload : Json.Members} {names : List String} {errors : FieldErrors}
variable {r : PayloadReader}

theorem sees_ofPayload (view : View) (mode : Intent) (payload : Json.Members) :
    (ofPayload view mode payload).Sees mode payload view.writable .empty where
  mode := rfl
  errors := rfl
  fields name hname :=
    (get?_filter (view.writable.contains ·) payload name).trans
      (if_pos (List.contains_iff_mem.2 hname))

theorem Passes.step {field : Field α} {reading : Reading (Option α)} (hpasses : Passes field reading)
    (h : r.Sees mode payload (field.name :: names) errors) (hnew : field.name ∉ names) :
    ∃ r', reading.run r = (field.value? mode payload, r') ∧
      r'.Sees mode payload names (noted errors (field.offence mode payload)) := by
  have hjudge : field.judge r.mode r.fields = field.judge mode payload := by
    rw [h.mode]
    exact Field.judge_congr (h.fields _ List.mem_cons_self)
  have hrun := hpasses r
  rw [hjudge] at hrun
  refine ⟨_, hrun, h.mode, ?_, ?_⟩
  · intro name hname
    have hne : name ≠ field.name := fun heq => hnew (heq ▸ hname)
    refine (get?_filter (· ≠ field.name) r.fields name).trans ?_
    rw [if_pos (by simpa using hne)]
    exact h.fields name (List.mem_cons_of_mem _ hname)
  · rw [← h.errors]
    rfl

theorem conclude_eq (value? : Option α) (h : r.Sees mode payload names errors) :
    conclude value? r = conclude value? { mode, fields := [], errors } := by
  unfold conclude
  rw [h.errors]

theorem parse_four {β γ δ ε : Type} {a : Field α} {b : Field β} {c : Field γ} {d : Field δ}
    {readA : Reading (Option α)} {readB : Reading (Option β)} {readC : Reading (Option γ)}
    {readD : Reading (Option δ)} (ha : Passes a readA) (hb : Passes b readB) (hc : Passes c readC)
    (hd : Passes d readD) {form : Form ε}
    {make : Option α → Option β → Option γ → Option δ → Option ε}
    (hread : form.read = do return make (← readA) (← readB) (← readC) (← readD))
    (hnames : form.view.writable = [a.name, b.name, c.name, d.name])
    (hnodup : form.view.writable.Nodup) (mode : Intent) (payload : Json.Members) :
    form.parse mode payload = conclude
      (make (a.value? mode payload) (b.value? mode payload) (c.value? mode payload)
        (d.value? mode payload))
      { mode, fields := [], errors := [a.offence mode payload, b.offence mode payload,
          c.offence mode payload, d.offence mode payload].foldl noted .empty } := by
  have hstart := sees_ofPayload form.view mode payload
  rw [hnames] at hnodup hstart
  obtain ⟨ra, hra, hsees⟩ := ha.step hstart (List.nodup_cons.1 hnodup).1
  obtain ⟨rb, hrb, hsees⟩ := hb.step hsees (List.nodup_cons.1 hnodup.of_cons).1
  obtain ⟨rc, hrc, hsees⟩ := hc.step hsees (List.nodup_cons.1 hnodup.of_cons.of_cons).1
  obtain ⟨rd, hrd, hsees⟩ := hd.step hsees List.not_mem_nil
  rw [Form.parse, hread, run_bind, hra, run_bind, hrb, run_bind, hrc, run_bind, hrd]
  exact conclude_eq _ hsees

theorem foldl_noted_user (email firstName lastName isActive : Option String) :
    [("email", email), ("first_name", firstName), ("last_name", lastName),
        ("is_active", isActive)].foldl noted .empty =
      ⟨offences [("email", email), ("first_name", firstName), ("is_active", isActive),
        ("last_name", lastName)]⟩ := by
  cases email <;> cases firstName <;> cases lastName <;> cases isActive <;> rfl

theorem foldl_noted_post (title content author published : Option String) :
    [("title", title), ("content", content), ("author", author),
        ("published", published)].foldl noted .empty =
      ⟨offences [("author", author), ("content", content), ("published", published),
        ("title", title)]⟩ := by
  cases title <;> cases content <;> cases author <;> cases published <;> rfl

theorem judged_conclude {value? : Option α} {entries : List (String × List String)} {missing : Prop}
    (h : entries = [] → (value? = none ↔ missing)) :
    Judged (conclude value? { mode, fields := [], errors := ⟨entries⟩ }) entries missing value? where
  offended hne := by simp [conclude, FieldErrors.isEmpty, hne]
  incomplete hnil hmissing := by
    subst hnil
    rw [(h rfl).2 hmissing]
    rfl
  accepted hnil hmissing := by
    subst hnil
    cases value? with
    | none => exact absurd ((h rfl).1 rfl) hmissing
    | some a => exact ⟨a, rfl, rfl⟩

section Forms

variable (mode : Intent) (payload : Json.Members)

theorem parse_user {form : Form α} (hview : form.view = .user)
    {make : Option Email → Option String → Option String → Option Bool → Option α}
    (hread : form.read = do
      return make (← required Email.scalar "email") (← text "first_name" nameMaxLength)
        (← text "last_name" nameMaxLength) (← optional Scalar.flag "is_active")) :
    form.parse mode payload = conclude
      (make (Field.email.value? mode payload) (Field.firstName.value? mode payload)
        (Field.lastName.value? mode payload) (Field.isActive.value? mode payload))
      { mode, fields := [], errors := ⟨userOffences mode payload⟩ } := by
  have hnames : form.view.writable = ["email", "first_name", "last_name", "is_active"] :=
    hview ▸ rfl
  have hparse := parse_four (passes_required "email" Email.scalar)
    (passes_text "first_name" nameMaxLength) (passes_text "last_name" nameMaxLength)
    (passes_optional "is_active" Scalar.flag) hread hnames (hnames ▸ by decide) mode payload
  exact hparse.trans (congrArg (fun errors => conclude _ { mode, fields := [], errors })
    (foldl_noted_user _ _ _ _))

theorem parse_post {form : Form α} (hview : form.view.writable = View.post.writable)
    {make : Option String → Option String → Option UserId → Option Bool → Option α}
    (hread : form.read = do
      return make (← text "title" titleMaxLength) (← text "content" none)
        (← required Id.scalar "author") (← optional Scalar.flag "published")) :
    form.parse mode payload = conclude
      (make (Field.title.value? mode payload) (Field.content.value? mode payload)
        (Field.author.value? mode payload) (Field.published.value? mode payload))
      { mode, fields := [], errors := ⟨postOffences mode payload⟩ } := by
  have hparse := parse_four (passes_text "title" titleMaxLength) (passes_text "content" none)
    (passes_required "author" Id.scalar) (passes_optional "published" Scalar.flag) hread hview
    (hview ▸ by decide) mode payload
  exact hparse.trans (congrArg (fun errors => conclude _ { mode, fields := [], errors })
    (foldl_noted_post _ _ _ _))

theorem bind_eq_none_iff_lacks {β γ δ : Type} {a : Field α} {b : Field β} {c : Field γ}
    {make : α → β → γ → δ} (ha : a.hasDefault = false) (hb : b.hasDefault = false)
    (hc : c.hasDefault = false) (ha' : (a.offence mode payload).2 = none)
    (hb' : (b.offence mode payload).2 = none) (hc' : (c.offence mode payload).2 = none) :
    (do return make (← a.value? mode payload) (← b.value? mode payload) (← c.value? mode payload) :
      Option δ) = none ↔ Lacks mode payload [a.name, b.name, c.name] := by
  have hanone := Field.value?_eq_none_iff ha ha'
  have hbnone := Field.value?_eq_none_iff hb hb'
  have hcnone := Field.value?_eq_none_iff hc hc'
  simp only [Lacks, List.mem_cons, List.not_mem_nil, or_false, exists_eq_or_imp, exists_eq_left,
    and_or_left, ← hanone, ← hbnone, ← hcnone]
  cases a.value? mode payload with
  | none => simp
  | some _ => cases b.value? mode payload with
    | none => simp
    | some _ => cases c.value? mode payload <;> simp

end Forms

end PayloadReader

section Judged

variable (mode : Intent) (payload : Json.Members)

theorem judged_newUser : Judged (Form.newUser.parse mode payload) (userOffences mode payload)
    (Lacks mode payload ["email", "first_name", "last_name"])
    (do return ⟨← Field.email.value? mode payload, ← Field.firstName.value? mode payload,
      ← Field.lastName.value? mode payload, (Field.isActive.value? mode payload).getD true⟩) := by
  rw [PayloadReader.parse_user mode payload rfl rfl]
  apply PayloadReader.judged_conclude
  intro hnil
  have hnone := offences_eq_nil_iff.1 hnil
  exact PayloadReader.bind_eq_none_iff_lacks mode payload rfl rfl rfl
    (hnone (Field.email.offence mode payload) (by simp))
    (hnone (Field.firstName.offence mode payload) (by simp))
    (hnone (Field.lastName.offence mode payload) (by simp))

theorem judged_userChanges :
    Judged (Form.userChanges.parse mode payload) (userOffences mode payload) False
      (some ⟨Field.email.value? mode payload, Field.firstName.value? mode payload,
        Field.lastName.value? mode payload, Field.isActive.value? mode payload⟩) := by
  rw [PayloadReader.parse_user mode payload rfl rfl]
  exact PayloadReader.judged_conclude fun _ => by simp

theorem judged_newPost : Judged (Form.newPost.parse mode payload) (postOffences mode payload)
    (Lacks mode payload ["title", "content", "author"])
    (do return ⟨← Field.title.value? mode payload, ← Field.content.value? mode payload,
      ← Field.author.value? mode payload, (Field.published.value? mode payload).getD false⟩) := by
  rw [PayloadReader.parse_post mode payload rfl rfl]
  apply PayloadReader.judged_conclude
  intro hnil
  have hnone := offences_eq_nil_iff.1 hnil
  exact PayloadReader.bind_eq_none_iff_lacks mode payload rfl rfl rfl
    (hnone (Field.title.offence mode payload) (by simp))
    (hnone (Field.content.offence mode payload) (by simp))
    (hnone (Field.author.offence mode payload) (by simp))

theorem judged_postChanges :
    Judged (Form.postChanges.parse mode payload) (postOffences mode payload) False
      (some ⟨Field.title.value? mode payload, Field.content.value? mode payload,
        Field.author.value? mode payload, Field.published.value? mode payload⟩) := by
  rw [PayloadReader.parse_post mode payload rfl rfl]
  exact PayloadReader.judged_conclude fun _ => by simp

end Judged

/-- Every form judges the writable fields of a payload one by one and reports all that offend.
Otherwise it has the value, but that a new user or post cannot be made of a patch without what has
no default. -/
theorem parse_judged (mode : Intent) (payload : Json.Members) :
    Judged (Form.newUser.parse mode payload) (userOffences mode payload)
      (Lacks mode payload ["email", "first_name", "last_name"])
      (do return ⟨← Field.email.value? mode payload, ← Field.firstName.value? mode payload,
        ← Field.lastName.value? mode payload, (Field.isActive.value? mode payload).getD true⟩) ∧
    Judged (Form.userChanges.parse mode payload) (userOffences mode payload) False
      (some ⟨Field.email.value? mode payload, Field.firstName.value? mode payload,
        Field.lastName.value? mode payload, Field.isActive.value? mode payload⟩) ∧
    Judged (Form.newPost.parse mode payload) (postOffences mode payload)
      (Lacks mode payload ["title", "content", "author"])
      (do return ⟨← Field.title.value? mode payload, ← Field.content.value? mode payload,
        ← Field.author.value? mode payload, (Field.published.value? mode payload).getD false⟩) ∧
    Judged (Form.postChanges.parse mode payload) (postOffences mode payload) False
      (some ⟨Field.title.value? mode payload, Field.content.value? mode payload,
        Field.author.value? mode payload, Field.published.value? mode payload⟩) :=
  ⟨judged_newUser mode payload, judged_userChanges mode payload, judged_newPost mode payload,
    judged_postChanges mode payload⟩

end Bulletin
