import Bulletin.Proofs.Service.Path

namespace Bulletin

open Service

variable {request : Request} {route : Route} {verb : Verb} {h : Handler Response}

namespace Route

theorem methods_eq : route.methods = route.verbs.flatMap Verb.methods := by
  cases route <;> rfl

theorem mem_methods_iff {method : String} :
    method ∈ route.methods ↔ ∃ verb ∈ route.verbs, method ∈ verb.methods := by
  rw [methods_eq, List.mem_flatMap]

end Route

theorem Verb.ofMethod?_eq_some_iff {method : String} :
    Verb.ofMethod? method = some verb ↔ method ∈ verb.methods := by
  constructor
  · intro h
    simpa using List.find?_some h
  · intro h
    cases verb <;> simp only [methods, List.mem_cons, List.not_mem_nil, or_false] at h
    case get => rcases h with rfl | rfl <;> rfl
    all_goals
      subst h
      rfl

theorem Verb.carries_iff {method : String} (h : method ∈ verb.methods) :
    verb ∈ [.post, .put, .patch] ↔ method ∈ ["POST", "PUT", "PATCH"] := by
  cases verb <;> simp only [methods, List.mem_cons, List.not_mem_nil, or_false] at h
  case get => rcases h with rfl | rfl <;> decide
  all_goals
    subst h
    decide

namespace Request.Row

theorem mem_verbs (hrow : request.Row route verb h) : verb ∈ route.verbs := by
  cases hrow <;> simp [Route.verbs]

theorem names (hrow : request.Row route verb h) :
    ∀ segment ∈ route.segment?, ∃ n, Segment.Names segment n := by
  cases hrow <;> simp only [Route.segment?, Option.mem_def, reduceCtorEq, Option.some.injEq,
    forall_eq', IsEmpty.forall_iff, implies_true]
  all_goals exact ⟨_, ‹_›⟩

theorem payload_ok (hrow : request.Row route verb h) (hverb : verb ∈ [.post, .put, .patch]) :
    ∃ members, payload request = .ok members := by
  cases hrow with
  | createUser hpayload | createPost hpayload | putUser _ hpayload | putPost _ hpayload
  | patchUser _ hpayload | patchPost _ hpayload => exact ⟨_, hpayload⟩
  | _ => simp at hverb

theorem mem_methods (hrow : request.Row route verb h) (hverb : request.method ∈ verb.methods) :
    request.method ∈ route.methods :=
  Route.mem_methods_iff.2 ⟨verb, hrow.mem_verbs, hverb⟩

theorem not_refused (hrow : request.Row route verb h) (hverb : request.method ∈ verb.methods)
    (hcarries : request.method ∈ ["POST", "PUT", "PATCH"]) {fault : BodyFault} :
    payload request ≠ .error fault := by
  obtain ⟨members, hmembers⟩ := hrow.payload_ok ((Verb.carries_iff hverb).2 hcarries)
  rw [hmembers]
  exact fun hfault => nomatch hfault

theorem serve_eq (hrow : request.Row route verb h) : serve request route (some verb) = h := by
  cases hrow with
  | listUsers | listPosts => rfl
  | createUser hpayload | createPost hpayload => exact withPayload_of_ok hpayload
  | getUser hn | getPost hn | deleteUser hn | deletePost hn | listUserPosts hn =>
    exact withId_of_ok (Segment.idOfSegment_of_names hn)
  | putUser hn hpayload | patchUser hn hpayload | putPost hn hpayload | patchPost hn hpayload =>
    exact (withId_of_ok (Segment.idOfSegment_of_names hn)).trans (withPayload_of_ok hpayload)

theorem unique {h' : Handler Response} (hrow : request.Row route verb h)
    (hrow' : request.Row route verb h') : h = h' := by
  rw [← hrow.serve_eq, hrow'.serve_eq]

end Request.Row

theorem exists_row (hverb : verb ∈ route.verbs)
    (hnames : ∀ segment ∈ route.segment?, ∃ n, Segment.Names segment n)
    (hpayload : verb ∈ [.post, .put, .patch] → ∃ members, payload request = .ok members) :
    ∃ h, request.Row route verb h := by
  cases route with
  | users | posts =>
    cases verb with
    | get => exact ⟨_, by constructor⟩
    | post =>
      obtain ⟨members, hmembers⟩ := hpayload (by decide)
      exact ⟨_, by constructor; exact hmembers⟩
    | _ => simp [Route.verbs] at hverb
  | user segment | post segment =>
    obtain ⟨n, hn⟩ := hnames segment rfl
    cases verb with
    | get | delete => exact ⟨_, by constructor; exact hn⟩
    | put | patch =>
      obtain ⟨members, hmembers⟩ := hpayload (by decide)
      exact ⟨_, by constructor <;> assumption⟩
    | post => simp [Route.verbs] at hverb
  | userPosts segment =>
    obtain ⟨n, hn⟩ := hnames segment rfl
    cases verb with
    | get => exact ⟨_, .listUserPosts hn⟩
    | _ => simp [Route.verbs] at hverb

theorem serve_of_not_mem {verb : Option Verb} (hverb : ∀ v ∈ verb, v ∉ route.verbs) :
    serve request route verb = pure (notAllowed route) := by
  unfold serve
  split
  case h_14 => rfl
  all_goals exact absurd (by simp [Route.verbs]) (hverb _ rfl)

theorem serve_of_fault {segment : String} {fault : PathFault} (hverb : verb ∈ route.verbs)
    (hsegment : route.segment? = some segment) (hfault : fault.Of segment) :
    serve request route (some verb) = throw (.path fault) := by
  cases route with
  | users | posts => cases hsegment
  | user | post =>
    cases hsegment
    cases verb with
    | get | put | patch | delete => exact withId_of_error (Segment.idOfSegment_of_fault hfault)
    | post => simp [Route.verbs] at hverb
  | userPosts =>
    cases hsegment
    cases verb with
    | get => exact withId_of_error (Segment.idOfSegment_of_fault hfault)
    | _ => simp [Route.verbs] at hverb

theorem serve_of_payload_error {fault : BodyFault} (hverb : verb ∈ route.verbs)
    (hcarries : verb ∈ [.post, .put, .patch])
    (hnames : ∀ segment ∈ route.segment?, ∃ n, Segment.Names segment n)
    (hfault : payload request = .error fault) :
    serve request route (some verb) = throw (.body fault) := by
  cases route with
  | users | posts =>
    cases verb with
    | post => exact withPayload_of_error hfault
    | get => simp at hcarries
    | put | patch | delete => simp [Route.verbs] at hverb
  | user segment | post segment =>
    obtain ⟨n, hn⟩ := hnames segment rfl
    cases verb with
    | put | patch =>
      exact (withId_of_ok (Segment.idOfSegment_of_names hn)).trans (withPayload_of_error hfault)
    | get | delete => simp at hcarries
    | post => simp [Route.verbs] at hverb
  | userPosts =>
    cases verb with
    | get => simp at hcarries
    | _ => simp [Route.verbs] at hverb

variable {destination destination' : Destination}

namespace Request.Reaches

theorem handled_eq (hreach : request.Reaches route destination) :
    ((serve request route (Verb.ofMethod? request.method)).run.bind fun outcome =>
      .done (trimmed request (ofOutcome outcome))) = destination.program request := by
  cases hreach with
  | notAllowed hmethod =>
    have hverb : ∀ v ∈ Verb.ofMethod? request.method, v ∉ route.verbs := fun v hv hmem =>
      hmethod (Route.mem_methods_iff.2 ⟨v, hmem, Verb.ofMethod?_eq_some_iff.1 hv⟩)
    rw [serve_of_not_mem hverb, Service.notAllowed, Route.allow, ← Route.methods_eq]
    rfl
  | notFound hmethod hsegment hfault =>
    obtain ⟨verb, hverb, hmethod⟩ := Route.mem_methods_iff.1 hmethod
    rw [Verb.ofMethod?_eq_some_iff.2 hmethod, serve_of_fault hverb hsegment hfault]
    rfl
  | refused hmethod hpayload hnames hfault =>
    obtain ⟨verb, hverb, hmethod⟩ := Route.mem_methods_iff.1 hmethod
    rw [Verb.ofMethod?_eq_some_iff.2 hmethod, serve_of_payload_error hverb
      ((Verb.carries_iff hmethod).2 hpayload) hnames hfault]
    rfl
  | served hmethod hrow =>
    rw [Verb.ofMethod?_eq_some_iff.2 hmethod, hrow.serve_eq]
    rfl

theorem unique (hreach : request.Reaches route destination)
    (hreach' : request.Reaches route destination') : destination = destination' := by
  cases hreach with
  | notAllowed hmethod =>
    cases hreach' with
    | notAllowed => rfl
    | notFound hmethod' | refused hmethod' => exact absurd hmethod' hmethod
    | served hverb hrow => exact absurd (hrow.mem_methods hverb) hmethod
  | notFound hmethod hsegment hfault =>
    cases hreach' with
    | notAllowed hmethod' => exact absurd hmethod hmethod'
    | notFound _ hsegment' hfault' =>
      obtain rfl := Option.some.inj (hsegment.symm.trans hsegment')
      rw [hfault.unique hfault']
    | refused _ _ hnames => exact absurd hfault (Segment.not_fault hnames hsegment)
    | served _ hrow => exact absurd hfault (Segment.not_fault hrow.names hsegment)
  | refused hmethod hcarries hnames hfault =>
    cases hreach' with
    | notAllowed hmethod' => exact absurd hmethod hmethod'
    | notFound _ hsegment hfault' => exact absurd hfault' (Segment.not_fault hnames hsegment)
    | refused _ _ _ hfault' =>
      rw [Except.error.inj (hfault.symm.trans hfault')]
    | served hverb hrow => exact absurd hfault (hrow.not_refused hverb hcarries)
  | served hverb hrow =>
    cases hreach' with
    | notAllowed hmethod => exact absurd (hrow.mem_methods hverb) hmethod
    | notFound _ hsegment hfault => exact absurd hfault (Segment.not_fault hrow.names hsegment)
    | refused _ hcarries _ hfault => exact absurd hfault (hrow.not_refused hverb hcarries)
    | served hverb' hrow' =>
      have hsame := Verb.ofMethod?_eq_some_iff.2 hverb
      rw [Verb.ofMethod?_eq_some_iff.2 hverb'] at hsame
      obtain rfl := Option.some.inj hsame
      rw [hrow.unique hrow']

end Request.Reaches

theorem exists_reaches (request : Request) (route : Route) :
    ∃ destination, request.Reaches route destination := by
  by_cases hmethod : request.method ∈ route.methods
  case neg => exact ⟨_, .notAllowed hmethod⟩
  obtain ⟨verb, hverb, hverb'⟩ := Route.mem_methods_iff.1 hmethod
  by_cases hnames : ∀ segment ∈ route.segment?, ∃ n, Segment.Names segment n
  case neg =>
    obtain ⟨segment, hsegment, hnone⟩ : ∃ segment ∈ route.segment?, ¬∃ n,
        Segment.Names segment n := by simpa using hnames
    obtain hn | ⟨fault, hfault⟩ := Segment.names_or_fault segment
    · exact absurd hn hnone
    · exact ⟨_, .notFound hmethod hsegment hfault⟩
  by_cases hpayload : verb ∈ [.post, .put, .patch] → ∃ members, payload request = .ok members
  case pos =>
    obtain ⟨h, hrow⟩ := exists_row hverb hnames hpayload
    exact ⟨_, .served hverb' hrow⟩
  rw [Classical.not_imp] at hpayload
  obtain ⟨hcarries, hpayload⟩ := hpayload
  cases hfault : payload request with
  | ok members => exact absurd ⟨members, hfault⟩ hpayload
  | error fault =>
    exact ⟨_, .refused hmethod ((Verb.carries_iff hverb').1 hcarries) hnames hfault⟩

theorem Request.EndsAt.respond_eq (hend : request.EndsAt destination) :
    respond request = destination.program request := by
  cases hend with
  | unknown hpath =>
    have hnone : Route.ofPath? request.uri.path = none := by
      rw [Option.eq_none_iff_forall_ne_some]
      intro route hroute
      obtain ⟨hlisted, hroute⟩ := Route.ofPath?_eq_some_iff.1 hroute
      exact hpath route hlisted hroute
    rw [respond, handle, hnone]
    rfl
  | known hlisted hpath hreach =>
    rw [respond, handle, Route.ofPath?_eq_some_iff.2 ⟨hlisted, hpath⟩]
    exact hreach.handled_eq

theorem Request.EndsAt.unique (hend : request.EndsAt destination)
    (hend' : request.EndsAt destination') : destination = destination' := by
  cases hend with
  | unknown hpath =>
    cases hend' with
    | unknown => rfl
    | known hlisted hroute => exact absurd hroute (hpath _ hlisted)
  | known hlisted hroute hreach =>
    cases hend' with
    | unknown hpath => exact absurd hroute (hpath _ hlisted)
    | known hlisted' hroute' hreach' =>
      have hsame := Route.ofPath?_eq_some_iff.2 ⟨hlisted, hroute⟩
      rw [Route.ofPath?_eq_some_iff.2 ⟨hlisted', hroute'⟩] at hsame
      cases hsame
      exact hreach.unique hreach'

theorem exists_endsAt (request : Request) : ∃ destination, request.EndsAt destination := by
  by_cases hpath : ∃ route : Route, route.Listed ∧ request.uri.path = route.path
  · obtain ⟨route, hlisted, hroute⟩ := hpath
    obtain ⟨destination, hreach⟩ := exists_reaches request route
    exact ⟨destination, .known hlisted hroute hreach⟩
  · exact ⟨_, .unknown fun route hlisted hroute => hpath ⟨route, hlisted, hroute⟩⟩

/-- The routes are those of the table, and whatever is requested ends up in the one place that the
table has for it. Only a handler asks the store anything. -/
theorem directed (request : Request) :
    (∀ route, Route.ofPath? request.uri.path = some route ↔
      route.Listed ∧ request.uri.path = route.path) ∧
    (∃! destination, request.EndsAt destination) ∧
    ∀ destination, request.EndsAt destination → respond request = destination.program request := by
  refine ⟨fun _ => Route.ofPath?_eq_some_iff, ?_, fun _ => Request.EndsAt.respond_eq⟩
  obtain ⟨destination, hend⟩ := exists_endsAt request
  exact ⟨destination, hend, fun _ hend' => hend'.unique hend⟩

/-- No route with a segment that is not empty has this path, and still it is not an unknown one. -/
theorem between_slashes :
    (∀ route : Route, route.Listed → "" ∉ route.segment? → "/users//posts" ≠ route.path) ∧
    respond { method := "POST", uri := { path := "/users//posts" } } =
      .done { status := .methodNotAllowed, allow := some "GET,HEAD" } ∧
    respond { method := "GET", uri := { path := "/users//posts" } } =
      .done (.ofError (.path (.notNumber ""))) ∧
    Response.ofError (.path (.notNumber "")) ≠
      .ofError (.unknownRoute { path := "/users//posts" }) := by
  have hlisted : (Route.userPosts "").Listed := by simp [Route.Listed]
  have hfault : (PathFault.notNumber "").Of "" := by
    refine ⟨rfl, ?_⟩
    rintro n - ⟨digits, hne, -, hdigits, -⟩
    simp [hne] at hdigits
  refine ⟨?_, ?_, ?_, ?_⟩
  · intro route hroute hsegment hpath
    have hempty : Route.ofPath? "/users//posts" = some (.userPosts "") :=
      Route.ofPath?_eq_some_iff.2 ⟨hlisted, by decide⟩
    rw [Route.ofPath?_eq_some_iff.2 ⟨hroute, hpath⟩] at hempty
    cases hempty
    exact hsegment rfl
  · refine (Request.EndsAt.known hlisted ?_ (.notAllowed ?_)).respond_eq <;> decide
  · refine (Request.EndsAt.known hlisted ?_ (.notFound ?_ rfl hfault)).respond_eq <;> decide
  · decide

end Bulletin
