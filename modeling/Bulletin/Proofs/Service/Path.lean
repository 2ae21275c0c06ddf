import Mathlib.Data.List.Basic
import Bulletin.Proofs.Text.Numeral
import Bulletin.Service.Directory
import Bulletin.Service.ReadBack

namespace Bulletin

open Service

variable {entity : Entity} {request : Request} {route : Route}

namespace Service

variable {α : Type} {segment : String} {id : Id entity} {members : Json.Members}

theorem withId_of_ok {handler : Id entity → Handler α} (h : idOfSegment segment = .ok id) :
    withId segment handler = handler id := by
  rw [withId, h]

theorem withId_of_error {handler : Id entity → Handler α} {fault : PathFault}
    (h : (idOfSegment segment : Except PathFault (Id entity)) = .error fault) :
    withId segment handler = throw (.path fault) := by
  rw [withId, h]

theorem withPayload_of_ok {handler : Json.Members → Handler α} (h : payload request = .ok members) :
    withPayload request handler = handler members := by
  rw [withPayload, h]

theorem withPayload_of_error {handler : Json.Members → Handler α} {fault : BodyFault}
    (h : payload request = .error fault) : withPayload request handler = throw (.body fault) := by
  rw [withPayload, h]

end Service

theorem decode_of_not_mem {bytes : Bytes} (h : Ascii.percent ∉ bytes) :
    Percent.decode bytes = bytes := by
  induction bytes with
  | nil => rfl
  | cons b rest ih =>
    rw [List.mem_cons, not_or] at h
    unfold Percent.decode
    split
    case h_1 heq =>
      cases heq
      exact absurd rfl h.1
    case h_2 heq =>
      cases heq
      rw [ih h.2]
    case h_3 heq => cases heq

namespace Segment

variable {segment s : String} {n : UInt64} {fault : PathFault}

theorem ofText?_of_denotes (h : Numeral.Denotes s n.toNat) :
    (Id.ofText? s : Option (Id entity)) = some ⟨n⟩ := by
  rw [Id.ofText?, Numeral.ofText?_eq_some_iff.2 ⟨n.toNat_lt, h⟩]
  simp [Id.ofNat]

theorem ofText?_of_not_denotes (h : ∀ n < UInt64.size, ¬ Numeral.Denotes s n) :
    (Id.ofText? s : Option (Id entity)) = none := by
  rw [Id.ofText?, Option.map_eq_none_iff, Option.eq_none_iff_forall_ne_some]
  intro n hn
  obtain ⟨hlt, hdenotes⟩ := Numeral.ofText?_eq_some_iff.1 hn
  exact h n hlt hdenotes

theorem idOfSegment_of_names (h : Names segment n) :
    (idOfSegment segment : Except PathFault (Id entity)) = .ok ⟨n⟩ := by
  obtain ⟨s, hdecode, hdenotes⟩ := h
  simp only [idOfSegment, hdecode, ofUtf8?_utf8, ofText?_of_denotes hdenotes]

theorem idOfSegment_of_fault (h : fault.Of segment) :
    (idOfSegment segment : Except PathFault (Id entity)) = .error fault := by
  cases fault with
  | notText =>
    have hnone : ofUtf8? (Percent.decode (utf8 segment)) = none :=
      Option.eq_none_iff_forall_ne_some.2 fun s hs => h s (ofUtf8?_eq_some_iff.1 hs).symm
    rw [idOfSegment, hnone]
  | notNumber s =>
    simp only [idOfSegment, h.1, ofUtf8?_utf8, ofText?_of_not_denotes h.2]

theorem names_or_fault (segment : String) :
    (∃ n, Names segment n) ∨ ∃ fault : PathFault, fault.Of segment := by
  by_cases htext : ∃ s, Percent.decode (utf8 segment) = utf8 s
  · obtain ⟨s, hs⟩ := htext
    by_cases hnumber : ∃ n < UInt64.size, Numeral.Denotes s n
    · obtain ⟨n, hlt, hdenotes⟩ := hnumber
      refine .inl ⟨UInt64.ofNat n, s, hs, ?_⟩
      rwa [UInt64.toNat_ofNat_of_lt' hlt]
    · exact .inr ⟨.notNumber s, hs, fun n hlt hdenotes => hnumber ⟨n, hlt, hdenotes⟩⟩
  · exact .inr ⟨.notText, fun s hs => htext ⟨s, hs⟩⟩

theorem not_fault {segment? : Option String}
    (hnames : ∀ segment ∈ segment?, ∃ n, Names segment n) (h : segment? = some segment) :
    ¬ fault.Of segment := by
  intro hfault
  obtain ⟨n, hn⟩ := hnames segment h
  have hid : (idOfSegment segment : Except PathFault UserId) = .ok ⟨n⟩ := idOfSegment_of_names hn
  rw [idOfSegment_of_fault hfault] at hid
  cases hid

end Segment

theorem PathFault.Of.unique {segment : String} {fault fault' : PathFault}
    (h : fault.Of segment) (h' : fault'.Of segment) : fault = fault' := by
  have hid : (idOfSegment segment : Except PathFault UserId) = .error fault :=
    Segment.idOfSegment_of_fault h
  rw [Segment.idOfSegment_of_fault h'] at hid
  cases hid
  rfl

section Split

variable {cs : List Char}

theorem split_eq_splitOn : Text.split (· = '/') cs = cs.splitOn '/' := by
  induction cs with
  | nil => rfl
  | cons c cs ih =>
    rw [List.splitOn_cons_eq_if_modifyHead, Text.split, ih]
    by_cases hc : c = '/'
    · simp [hc]
    · simp only [hc, beq_iff_eq, decide_false, Bool.false_eq_true, if_false]
      cases hparts : cs.splitOn '/' with
      | nil => exact absurd hparts (List.splitOn_ne_nil _ _)
      | cons part parts => rfl

theorem not_mem_of_mem_splitOn : ∀ part ∈ cs.splitOn '/', '/' ∉ part := by
  induction cs with
  | nil => simp
  | cons c cs ih =>
    rw [List.splitOn_cons_eq_if_modifyHead]
    by_cases hc : c = '/'
    · simpa [hc] using ih
    · simp only [hc, beq_iff_eq, if_false]
      cases hparts : cs.splitOn '/' with
      | nil => exact absurd hparts (List.splitOn_ne_nil _ _)
      | cons part parts =>
        rw [hparts] at ih
        have hhead := ih part List.mem_cons_self
        have htail : ∀ other ∈ parts, '/' ∉ other := fun other h =>
          ih other (List.mem_cons_of_mem _ h)
        simp only [List.modifyHead_cons, List.mem_cons, forall_eq_or_imp, not_or]
        exact ⟨⟨Ne.symm hc, hhead⟩, htail⟩

theorem segments_eq_iff {path : String} {parts : List String} :
    (Text.split (· = '/') path.toList).map String.ofList = parts ↔
      parts ≠ [] ∧ (∀ part ∈ parts, '/' ∉ part.toList) ∧ "/".intercalate parts = path := by
  rw [split_eq_splitOn]
  constructor
  · rintro rfl
    refine ⟨by simp [List.splitOn_ne_nil], ?_, ?_⟩
    · intro part hpart
      obtain ⟨chars, hchars, rfl⟩ := List.mem_map.1 hpart
      rw [String.toList_ofList]
      exact not_mem_of_mem_splitOn chars hchars
    · apply String.toList_injective
      rw [String.toList_intercalate, List.map_map]
      simp [Function.comp_def, List.intercalate_splitOn]
  · rintro ⟨hne, hparts, rfl⟩
    have hchars : ∀ chars ∈ parts.map String.toList, '/' ∉ chars := by
      simpa using hparts
    rw [String.toList_intercalate]
    have hslash : "/".toList = ['/'] := by decide
    rw [hslash, List.splitOn_intercalate '/' hchars (by simpa using hne), List.map_map]
    simp [Function.comp_def]

end Split

namespace Route

def segments : Route → List String
  | users => ["", "users"]
  | user segment => ["", "users", segment]
  | userPosts segment => ["", "users", segment, "posts"]
  | posts => ["", "posts"]
  | post segment => ["", "posts", segment]

def Closed : Route → Prop
  | user segment | post segment => segment ≠ ""
  | _ => True

theorem listed_iff : route.Listed ↔ route.Closed ∧ ∀ part ∈ route.segments, '/' ∉ part.toList := by
  cases route <;> simp [segments, Closed, Listed]

theorem intercalate_segments : "/".intercalate route.segments = route.path := by
  apply String.toList_injective
  cases route <;> simp [segments, path]

theorem segments_path_iff {path : String} :
    (Text.split (· = '/') path.toList).map String.ofList = route.segments ↔
      (∀ part ∈ route.segments, '/' ∉ part.toList) ∧ path = route.path := by
  have hne : route.segments ≠ [] := by cases route <;> exact List.cons_ne_nil _ _
  rw [segments_eq_iff, intercalate_segments, and_iff_right hne, eq_comm (a := route.path)]

theorem of_ofPath?_eq_some {path : String} (h : ofPath? path = some route) :
    route.Closed ∧ (Text.split (· = '/') path.toList).map String.ofList = route.segments := by
  unfold ofPath? at h
  split at h
  case h_1 hpath | h_3 hpath | h_4 hpath =>
    cases h
    exact ⟨trivial, hpath⟩
  case h_2 segment hpath | h_5 segment hpath =>
    split at h
    · cases h
    case isFalse hne =>
      cases h
      exact ⟨by simpa [Closed] using hne, hpath⟩
  case h_6 => cases h

theorem ofPath?_of_segments {path : String} (hclosed : route.Closed)
    (h : (Text.split (· = '/') path.toList).map String.ofList = route.segments) :
    ofPath? path = some route := by
  rw [ofPath?, h]
  cases route with
  | users | posts | userPosts segment => rfl
  | user segment | post segment => exact if_neg (by simpa [Closed] using hclosed)

theorem ofPath?_eq_some_iff {path : String} :
    ofPath? path = some route ↔ route.Listed ∧ path = route.path := by
  rw [listed_iff, and_assoc, ← segments_path_iff]
  exact ⟨of_ofPath?_eq_some, fun h => ofPath?_of_segments h.1 h.2⟩

end Route

section Ids

variable (id : Id entity)

theorem toList_id : (toString id).toList = Nat.toDigits 10 id.number.toNat := by
  change (toString id.number.toNat).toList = _
  rw [Nat.toString_eq_ofList_toDigits, String.toList_ofList]

theorem isDigit_of_mem_id : ∀ c ∈ (toString id).toList, c.isDigit := by
  intro c hc
  rw [toList_id] at hc
  exact Nat.isDigit_of_mem_toDigits (by decide) (by decide) hc

theorem denotes_id : Numeral.Denotes (toString id) id.number.toNat := by
  refine ⟨(toString id).toList, ?_, isDigit_of_mem_id id, List.mem_cons_self, ?_⟩
  · rw [toList_id]
    exact Nat.toDigits_ne_nil
  · rw [toList_id, Nat.ofDigitChars_ten_toDigits]

theorem names_id : Segment.Names (toString id) id.number := by
  refine ⟨toString id, decode_of_not_mem ?_, denotes_id id⟩
  rw [← String.ofList_toList (s := toString id), utf8_ofList_of_isDigit (isDigit_of_mem_id id)]
  exact Numeral.not_mem_digits (by decide) (isDigit_of_mem_id id)

theorem segment_id : toString id ≠ "" ∧ '/' ∉ (toString id).toList := by
  constructor
  · intro hempty
    obtain ⟨digits, hne, -, hdigits, -⟩ := denotes_id id
    simp [hempty, hne] at hdigits
  · exact fun hslash => absurd (isDigit_of_mem_id id _ hslash) (by decide)

end Ids

theorem leadsTo_id {entity : Entity} {route : String → Route} {id : Id entity}
    (hlisted : (route (toString id)).Listed) (h : request.uri.path = (route (toString id)).path) :
    request.LeadsTo route id :=
  ⟨toString id, Route.ofPath?_eq_some_iff.2 ⟨hlisted, h⟩,
    Segment.idOfSegment_of_names (names_id id)⟩

end Bulletin
