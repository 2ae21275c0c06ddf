import Bulletin.Proofs.View.FieldErrors
import Bulletin.View.Taking

namespace Bulletin

open Json (Scalar)

variable {α : Type}

theorem get?_filter (keep : String → Bool) (payload : Json.Members) (name : String) :
    Json.Members.get? (payload.filter (keep ·.1)) name =
      if keep name then payload.get? name else none := by
  unfold Json.Members.get?
  rw [← List.filter_reverse]
  induction payload.reverse with
  | nil => simp
  | cons member rest ih =>
    obtain ⟨key, value⟩ := member
    by_cases hkey : name = key
    · subst hkey
      cases hkeep : keep name
      · simp [hkeep, ih]
      · simp [hkeep]
    · cases hkeep : keep key <;>
        simp [hkeep, List.lookup_cons, beq_false_of_ne hkey, ih]

namespace Take

instance (t : Take α) (mode : Intent) : Decidable (t.MayLack mode) := by
  unfold MayLack
  cases t <;> infer_instance

def fault? : Take α → Json → Option String
  | _, .null => some "This field may not be null."
  | required decode _, value | optional decode _, value => match decode value with
    | .ok _ => none
    | .error message => some message
  | text _ max, value => match PayloadReader.decoder Scalar.text value with
    | .ok s => match PayloadReader.checkText max s with
      | .ok _ => none
      | .error message => some message
    | .error message => some message

def offence? (t : Take α) (mode : Intent) : Option Json → Option String
  | none => if t.MayLack mode then none else some "This field is required."
  | some value => t.fault? value

theorem offence?_spared {t : Take α} {mode : Intent} (h : t.MayLack mode) :
    t.offence? mode none = none := if_pos h

theorem offence?_missing {t : Take α} {mode : Intent} (h : ¬ t.MayLack mode) :
    t.offence? mode none = some "This field is required." := if_neg h

theorem reads_eq_none_iff (t : Take α) (value : Json) :
    t.reads value = none ↔ t.fault? value ≠ none := by
  cases t with
  | required decode name | optional decode name =>
    cases value with
    | null => exact iff_of_true rfl nofun
    | _ =>
      simp only [reads, fault?]
      cases decode _ <;> simp [Except.toOption]
  | text name max =>
    cases value with
    | text s =>
      have hdecode : PayloadReader.decoder Scalar.text (.text s) = .ok s := rfl
      simp only [reads, fault?, hdecode]
      cases PayloadReader.checkText max s <;> simp [Except.toOption]
    | _ => exact iff_of_true rfl nofun

end Take

namespace PayloadReader

def noted (errors : FieldErrors) : String × Option String → FieldErrors
  | (name, some message) => errors.add name message
  | (_, none) => errors

def pass (name : String) (offence? : Option String) (r : PayloadReader) : PayloadReader where
  mode := r.mode
  fields := r.fields.filter (·.1 ≠ name)
  errors := noted r.errors (name, offence?)

theorem run_bind {β : Type} (reading : Reading α) (f : α → Reading β) (r : PayloadReader) :
    (reading >>= f).run r = (f (reading.run r).1).run (reading.run r).2 := rfl

theorem run_optionalBy (decode : Json → Except String α) (name : String) (r : PayloadReader) :
    (optionalBy decode name).run r = ((r.fields.get? name).bind (Take.optional decode name).reads,
      r.pass name ((Take.optional decode name).offence? r.mode (r.fields.get? name))) := by
  have htake : (take name).run r =
    (r.fields.get? name, { r with fields := r.fields.filter (·.1 ≠ name) }) := rfl
  rw [optionalBy, run_bind, htake]
  cases r.fields.get? name with
  | none => rfl
  | some value =>
    cases value with
    | null => rfl
    | _ =>
      simp only [Option.bind_some, Take.reads, Take.offence?, Take.fault?]
      cases decode _ <;> rfl

theorem run_requiredBy (decode : Json → Except String α) (name : String) (r : PayloadReader) :
    (requiredBy decode name).run r = ((r.fields.get? name).bind (Take.required decode name).reads,
      r.pass name ((Take.required decode name).offence? r.mode (r.fields.get? name))) := by
  have hoptional := run_optionalBy decode name
  change (do
    if (r.fields.get? name).isNone ∧ r.mode ≠ .patch then note name "This field is required."
    optionalBy decode name : Reading (Option α)).run r = _
  cases hget : r.fields.get? name with
  | some value =>
    have h := hoptional r
    rw [hget] at h
    rw [if_neg (by simp)]
    cases value <;> exact h
  | none =>
    have hspared (r : PayloadReader) : (Take.optional decode name).offence? r.mode none = none :=
      Take.offence?_spared trivial
    by_cases hpatch : r.mode = .patch
    · have h := hoptional r
      rw [hget, hspared] at h
      rw [if_neg (by simp [hpatch]), Take.offence?_spared (t := .required decode name) hpatch]
      exact h
    · have h := hoptional { r with errors := r.errors.add name "This field is required." }
      rw [hget, hspared] at h
      rw [if_pos ⟨rfl, hpatch⟩, Take.offence?_missing (t := .required decode name) hpatch]
      exact h

theorem run_text (name : String) (max : Option Nat) (r : PayloadReader) :
    (text name max).run r = ((r.fields.get? name).bind (Take.text name max).reads,
      r.pass name ((Take.text name max).offence? r.mode (r.fields.get? name))) := by
  rw [text, run_bind, required, run_requiredBy]
  cases hget : r.fields.get? name with
  | none =>
    by_cases hpatch : r.mode = .patch
    · rw [Take.offence?_spared (t := .text name max) hpatch,
        Take.offence?_spared (t := .required (decoder Scalar.text) name) hpatch]
      rfl
    · rw [Take.offence?_missing (t := .text name max) hpatch,
        Take.offence?_missing (t := .required (decoder Scalar.text) name) hpatch]
      rfl
  | some value =>
    cases value with
    | text s =>
      have hdecode : decoder Scalar.text (.text s) = .ok s := rfl
      simp only [Option.bind_some, Take.reads, Take.offence?, Take.fault?, hdecode, Except.toOption]
      cases checkText max s <;> rfl
    | _ => rfl

theorem run_reading (t : Take α) (r : PayloadReader) : t.reading.run r =
    ((r.fields.get? t.name).bind t.reads,
      r.pass t.name (t.offence? r.mode (r.fields.get? t.name))) := by
  cases t with
  | required decode name => exact run_requiredBy decode name r
  | optional decode name => exact run_optionalBy decode name r
  | text name max => exact run_text name max r

theorem fair (t : Take α) (r : PayloadReader) : r.Fair t where
  value := congrArg Prod.fst (run_reading t r)
  accepts h := by
    rw [run_reading] at h ⊢
    cases hget : r.fields.get? t.name with
    | none => simp [hget] at h
    | some value =>
      rw [hget] at h
      have hfault : t.fault? value = none := by
        rw [← not_not (a := t.fault? value = none)]
        exact fun hne => h ((t.reads_eq_none_iff value).2 hne)
      rw [Take.offence?, hfault]
      rfl
  excuses hget hmay := by
    rw [run_reading, hget, Take.offence?_spared hmay]
    rfl
  notes h hneed := by
    rw [run_reading] at h ⊢
    cases hget : r.fields.get? t.name with
    | none =>
      rw [Take.offence?_missing fun hmay => hneed ⟨hget, hmay⟩]
      exact ⟨_, rfl⟩
    | some value =>
      rw [hget] at h
      obtain ⟨message, hmessage⟩ := Option.ne_none_iff_exists'.1 ((t.reads_eq_none_iff value).1 h)
      rw [Take.offence?, hmessage]
      exact ⟨message, rfl⟩

variable {view : View} {mode : Intent} {payload : Json.Members} {calls : Takes}
variable {r : PayloadReader} {log : List (String × String)}

theorem get?_after (r : PayloadReader) (calls : Takes) (name : String) :
    (r.after calls).fields.get? name =
      if name ∈ Takes.names calls then none else r.fields.get? name := by
  induction calls generalizing r with
  | nil => rfl
  | cons call calls ih =>
    obtain ⟨β, t⟩ := call
    have hfields : (t.reading.run r).2.fields = r.fields.filter (·.1 ≠ t.name) :=
      congrArg (fun outcome => outcome.2.fields) (run_reading t r)
    rw [after, ih, hfields, get?_filter (· ≠ t.name)]
    have hnames : Takes.names (⟨β, t⟩ :: calls) = t.name :: Takes.names calls := rfl
    simp only [hnames, List.mem_cons]
    by_cases hname : name = t.name <;> by_cases hcalls : name ∈ Takes.names calls <;>
      simp [hname, hcalls]

theorem mode_after (r : PayloadReader) (calls : Takes) : (r.after calls).mode = r.mode := by
  induction calls generalizing r with
  | nil => rfl
  | cons call calls ih =>
    obtain ⟨β, t⟩ := call
    exact (ih _).trans (congrArg (fun outcome => outcome.2.mode) (run_reading t r))

theorem exists_notes (r : PayloadReader) (calls : Takes) : ∃ log, r.Notes calls log := by
  induction calls generalizing r with
  | nil => exact ⟨[], .nil⟩
  | cons call calls ih =>
    obtain ⟨β, t⟩ := call
    obtain ⟨log, hlog⟩ := ih (t.reading.run r).2
    have hfair := fair t r
    by_cases hnone : (t.reading.run r).1 = none
    · by_cases hspared : r.fields.get? t.name = none ∧ t.MayLack r.mode
      · exact ⟨log, .silent (hfair.excuses hspared.1 hspared.2) hlog⟩
      · obtain ⟨message, hnotes⟩ := hfair.notes hnone hspared
        exact ⟨_, .note hnotes hlog⟩
    · exact ⟨log, .silent (hfair.accepts hnone) hlog⟩

theorem Notes.errors_after (h : r.Notes calls log) :
    (r.after calls).errors =
      log.foldl (fun errors (field, message) => errors.add field message) r.errors := by
  induction h with
  | nil => rfl
  | silent hstep _ ih =>
    rw [after, ih, hstep]
  | note hstep _ ih =>
    rw [after, ih, hstep]
    rfl

theorem conclude_eq_ok_iff {parsed : Option α} {a : α} :
    conclude parsed r = .ok a ↔ r.errors.isEmpty ∧ parsed = some a := by
  unfold conclude
  cases parsed <;> cases r.errors.isEmpty <;> simp

theorem conclude_eq_error_iff {parsed : Option α} {errors : FieldErrors} :
    conclude parsed r = .error errors ↔ if r.errors.isEmpty
      then parsed = none ∧ errors = .single wholePayload "Invalid data."
      else errors = r.errors := by
  unfold conclude
  cases parsed <;> cases r.errors.isEmpty <;> simp [eq_comm]

theorem concludes_ofLog (h : r.errors = .ofLog log) : r.Concludes log where
  value β a b := by
    rw [conclude_eq_ok_iff, h, FieldErrors.isEmpty_ofLog, Option.some.injEq, eq_comm (a := a)]
  never β a hconclude := nomatch (conclude_eq_ok_iff.1 hconclude).2
  nonempty β parsed errors hconclude := by
    rw [conclude_eq_error_iff] at hconclude
    split at hconclude
    case isTrue =>
      rw [hconclude.2]
      rfl
    case isFalse hsome =>
      rw [hconclude]
      simpa using hsome
  listed β parsed errors hlog hconclude field := by
    rw [conclude_eq_error_iff, if_neg] at hconclude
    · rw [hconclude, h, FieldErrors.field?_ofLog]
    · rwa [h, FieldErrors.isEmpty_ofLog]
  single β parsed errors hlog hconclude := by
    rw [conclude_eq_error_iff, if_pos] at hconclude
    · exact hconclude.2
    · rwa [h, FieldErrors.isEmpty_ofLog]

/-- Nothing is rejected in silence and nothing is read twice, whatever calls are made. -/
theorem heard (view : View) (mode : Intent) (payload : Json.Members) (calls : Takes) :
    Heard view mode payload calls where
  sees name value := by
    have hpayload : (ofPayload view mode payload).fields.get? name =
        if view.writable.contains name then payload.get? name else none :=
      get?_filter (view.writable.contains ·) payload name
    rw [get?_after, hpayload]
    by_cases hname : name ∈ view.writable <;> by_cases hcalls : name ∈ Takes.names calls <;>
      simp [hname, hcalls]
  sameMode := mode_after _ _
  fair β t := fair t _
  notes := exists_notes _ _
  concludes log hlog := concludes_ofLog hlog.errors_after

end PayloadReader

end Bulletin
