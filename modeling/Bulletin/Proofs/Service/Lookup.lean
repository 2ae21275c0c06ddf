import Bulletin.Proofs.Service.Received
import Bulletin.Service.Lookup

namespace Bulletin

variable {σ : Type} {lookup : Lookup} {post : Post} {posts : List Post}

namespace Lookup

theorem tried_cons : lookup.tried (post :: posts) =
    post :: if (lookup.view post).isOk then lookup.tried posts else [] := by
  rw [tried, List.findIdx_cons]
  cases (lookup.view post).isOk <;> rfl

theorem view_of_error {e : StoreError} (h : lookup post.author = .error e) :
    lookup.view post = .error (.ofStore e) := by
  rw [view, h]
  rfl

theorem view_of_ok {user? : Option User} (h : lookup post.author = .ok user?) :
    lookup.view post = (PostView.render post user?).mapError .orphan := by
  rw [view, h]
  rfl

end Lookup

namespace Handler

/-- From any state, the handler comes to the same result, and the same is asked and answered. -/
def Comes {α : Type} (step : (c : Call) → σ → c.Reply × σ) (h : Handler α)
    (result : Except ServiceError α) (asked : List ((c : Call) × c.Reply)) : Prop :=
  ∀ s, ∃ s', Dialogue.attempt step h s = (result, s') ∧ h.run.record step s = asked

section Comes

variable {α β : Type} {step : (c : Call) → σ → c.Reply × σ} {h : Handler α} {f : α → Handler β}
variable {a : α} {e : ServiceError} {asked asked' : List ((c : Call) × c.Reply)}

theorem comes_pure (a : α) : Comes step (pure a) (.ok a) [] := fun s => ⟨s, rfl, rfl⟩

theorem comes_throw (e : ServiceError) : Comes step (throw e : Handler α) (.error e) [] :=
  fun s => ⟨s, rfl, rfl⟩

theorem Comes.bind_ok {result : Except ServiceError β} (hh : Comes step h (.ok a) asked)
    (hf : Comes step (f a) result asked') : Comes step (h >>= f) result (asked ++ asked') := by
  intro s
  obtain ⟨middle, hrun, hasked⟩ := hh s
  obtain ⟨s', hrun', hasked'⟩ := hf middle
  refine ⟨s', ?_, ?_⟩
  · rw [Dialogue.attempt_bind, hrun]
    exact hrun'
  · rw [Dialogue.record_attempt_bind, hrun, hasked]
    exact congrArg (asked ++ ·) hasked'

theorem Comes.bind_error (hh : Comes step h (.error e) asked) :
    Comes step (h >>= f) (.error e) asked := by
  intro s
  obtain ⟨s', hrun, hasked⟩ := hh s
  refine ⟨s', ?_, ?_⟩
  · rw [Dialogue.attempt_bind, hrun]
  · rw [Dialogue.record_attempt_bind, hrun, hasked]
    exact List.append_nil asked

theorem Comes.then_pure {result : Except ServiceError α} (hh : Comes step h result asked)
    (g : α → β) :
    Comes step (h >>= fun a => pure (g a)) (result >>= fun a => pure (g a)) asked := by
  cases result with
  | ok a => exact asked.append_nil ▸ hh.bind_ok (comes_pure (g a))
  | error e => exact hh.bind_error

theorem comes_fetchUser (hanswered : lookup.AnsweredBy step) (id : UserId) :
    Comes step (fetchUser id) ((lookup id).mapError .ofStore) [lookup.asked id] := by
  intro s
  refine ⟨(step (.fetchUser id) s).2, ?_, ?_⟩
  · rw [← hanswered id s]
    rfl
  · rw [Lookup.asked, ← hanswered id s]
    rfl

end Comes

section

variable {step : (c : Call) → σ → c.Reply × σ} (hanswered : lookup.AnsweredBy step)
include hanswered

theorem comes_viewPost (post : Post) :
    Comes step (viewPost post) (lookup.view post) [lookup.asked post.author] := by
  have hfetch := comes_fetchUser hanswered post.author
  cases hfound : lookup post.author with
  | error e =>
    rw [hfound] at hfetch
    rw [Lookup.view_of_error hfound]
    exact hfetch.bind_error
  | ok user? =>
    rw [hfound] at hfetch
    rw [Lookup.view_of_ok hfound]
    exact hfetch.bind_ok fun s => ⟨s, rfl, rfl⟩

theorem comes_mapM_viewPost (posts : List Post) :
    Comes step (posts.mapM viewPost) (posts.mapM lookup.view)
      ((lookup.tried posts).map fun post => lookup.asked post.author) := by
  induction posts with
  | nil => exact comes_pure []
  | cons post posts ih =>
    have hview := comes_viewPost hanswered post
    rw [List.mapM_cons, List.mapM_cons, Lookup.tried_cons]
    cases hfirst : lookup.view post with
    | error e =>
      rw [hfirst] at hview
      exact hview.bind_error
    | ok shown =>
      rw [hfirst] at hview
      exact hview.bind_ok (ih.then_pure (shown :: ·))

end

variable {known : Known}

/-- Whatever is known was found. -/
def Known.From (lookup : Lookup) (known : Known) : Prop :=
  ∀ id user?, known.lookup id = some user? → lookup id = .ok user?

theorem Known.From.cons {id : UserId} {user? : Option User} (h : known.From lookup)
    (hfound : lookup id = .ok user?) : Known.From lookup ((id, user?) :: known) := by
  intro other other? hother
  rw [List.lookup_cons] at hother
  split at hother
  next heq => rw [eq_of_beq heq, hfound, Option.some.inj hother]
  next => exact h other other? hother

def Known.missing (known : Known) (lookup : Lookup) (posts : List Post) : List UserId :=
  (((lookup.tried posts).map Post.author).filter fun id => (known.lookup id).isNone).eraseDups

theorem missing_nil : Known.missing [] lookup posts = lookup.authors posts := by
  rw [Known.missing, Lookup.authors]
  congr 1
  exact List.filter_eq_self.2 fun _ _ => rfl

theorem missing_of_known {user? : Option User} (h : known.lookup post.author = some user?) :
    Known.missing known lookup (post :: posts) =
      if (lookup.view post).isOk then Known.missing known lookup posts else [] := by
  rw [Known.missing, Lookup.tried_cons, List.map_cons, List.filter_cons, h]
  cases (lookup.view post).isOk <;> rfl

theorem missing_of_unknown (h : known.lookup post.author = none) (user? : Option User) :
    Known.missing known lookup (post :: posts) =
      post.author :: if (lookup.view post).isOk then
        Known.missing ((post.author, user?) :: known) lookup posts else [] := by
  have hnext : ∀ id, (List.lookup id ((post.author, user?) :: known)).isNone =
      (!id == post.author && (known.lookup id).isNone) := by
    intro id
    rw [List.lookup_cons]
    cases id == post.author <;> rfl
  rw [Known.missing, Lookup.tried_cons, List.map_cons, List.filter_cons, h]
  simp only [Option.isNone_none, if_true, List.eraseDups_cons, List.filter_filter]
  cases (lookup.view post).isOk with
  | false => rfl
  | true => simp only [if_true, Known.missing, hnext]

def showNext (known : Known) (post : Post) (user? : Option User) (posts : List Post) :
    Handler (List PostView) := do
  let shown ← view post user?
  return shown :: (← viewPosts known posts)

theorem viewPosts_of_known {user? : Option User} (h : known.lookup post.author = some user?) :
    viewPosts known (post :: posts) = showNext known post user? posts := by
  rw [viewPosts, learn, h]
  simp only [pure_bind, h, Option.join_some]
  rfl

theorem viewPosts_of_unknown (h : known.lookup post.author = none) :
    viewPosts known (post :: posts) = (fetchUser post.author >>= fun user? =>
      showNext ((post.author, user?) :: known) post user? posts) := by
  rw [viewPosts, learn, h]
  simp only [bind_assoc, pure_bind, List.lookup_cons_self, Option.join_some]
  rfl

section

variable {step : (c : Call) → σ → c.Reply × σ}

theorem comes_showNext {user? : Option User} (hfound : lookup post.author = .ok user?)
    {ids : List UserId}
    (hnext : Comes step (viewPosts known posts) (posts.mapM lookup.view) (ids.map lookup.asked)) :
    Comes step (showNext known post user? posts) ((post :: posts).mapM lookup.view)
      ((if (lookup.view post).isOk then ids else []).map lookup.asked) := by
  rw [List.mapM_cons, Lookup.view_of_ok hfound, showNext, view]
  cases (PostView.render post user?).mapError ServiceError.orphan with
  | error e => exact comes_throw e
  | ok shown => exact hnext.then_pure (shown :: ·)

theorem comes_viewPosts (hanswered : lookup.AnsweredBy step) (hknown : known.From lookup) :
    Comes step (viewPosts known posts) (posts.mapM lookup.view)
      ((Known.missing known lookup posts).map lookup.asked) := by
  induction posts generalizing known with
  | nil => exact comes_pure []
  | cons post posts ih =>
    cases hlookup : known.lookup post.author with
    | some user? =>
      rw [viewPosts_of_known hlookup, missing_of_known hlookup]
      exact comes_showNext (hknown _ _ hlookup) (ih hknown)
    | none =>
      have hfetch := comes_fetchUser hanswered post.author
      rw [viewPosts_of_unknown hlookup]
      cases hfound : lookup post.author with
      | error e =>
        rw [hfound] at hfetch
        rw [missing_of_unknown hlookup none, List.mapM_cons, Lookup.view_of_error hfound]
        exact hfetch.bind_error
      | ok user? =>
        rw [hfound] at hfetch
        rw [missing_of_unknown hlookup user?]
        exact hfetch.bind_ok (comes_showNext hfound (ih (hknown.cons hfound)))

theorem comes_viewPosts_nil (hanswered : lookup.AnsweredBy step) (posts : List Post) :
    Comes step (viewPosts [] posts) (posts.mapM lookup.view)
      ((lookup.authors posts).map lookup.asked) :=
  missing_nil ▸ comes_viewPosts hanswered fun _ _ => nofun

end

end Handler

namespace Sql.Client

variable {α : Type} {reply : (s : Statement) → σ → s.Reply × σ} {state : σ}

theorem sent_of_record {program : StoreProgram α} {ids : List UserId}
    (h : program.record (answering reply) state = ids.map lookup.asked) :
    (sent reply state program).map (·.1) = ids.map fun id => .fetchUser id.toRow := by
  induction program generalizing ids state with
  | done a =>
    cases ids with
    | nil => rfl
    | cons id ids => cases h
  | ask c next ih =>
    cases ids with
    | nil => cases h
    | cons id ids =>
      rw [Dialogue.record, List.map_cons, List.cons.injEq] at h
      obtain ⟨hfirst, hrest⟩ := h
      obtain rfl : c = .fetchUser id := congrArg (·.1) hfirst
      have hperform : ((perform (.fetchUser id)).run.record reply state).map (·.1) =
          [.fetchUser id.toRow] := by
        rw [show perform (.fetchUser id) = _ from fetchUser_eq id]
        rfl
      rw [sent, overDatabase, Dialogue.expand, Dialogue.record_bind, List.map_append, hperform]
      exact congrArg (_ :: ·) (ih _ hrest)

end Sql.Client

namespace Handler

/-- Posts are shown together as they are shown one by one, or the first error is the same. Each
author of the posts up to there is looked up once, which over a database is one statement. -/
theorem viewPosts_plain (lookup : Lookup) (posts : List Post) {σ : Type} (s : σ) :
    (∀ step : (c : Call) → σ → c.Reply × σ, lookup.AnsweredBy step →
      ((viewPosts [] posts).run.run step s).1 = posts.mapM lookup.view ∧
      ((posts.mapM viewPost : Handler _).run.run step s).1 = posts.mapM lookup.view ∧
      (viewPosts [] posts).run.record step s = (lookup.authors posts).map lookup.asked) ∧
    ∀ reply : (q : Sql.Statement) → σ → q.Reply × σ,
      lookup.AnsweredBy (Sql.Client.answering reply) →
        Sql.Client.outcome reply s (viewPosts [] posts).run = posts.mapM lookup.view ∧
        (Sql.Client.sent reply s (viewPosts [] posts).run).map (·.1) =
          (lookup.authors posts).map fun id => .fetchUser id.toRow := by
  constructor
  · intro step hanswered
    obtain ⟨_, hrun, hasked⟩ := comes_viewPosts_nil hanswered posts s
    obtain ⟨_, hplain, -⟩ := comes_mapM_viewPost hanswered posts s
    exact ⟨congrArg Prod.fst hrun, congrArg Prod.fst hplain, hasked⟩
  · intro reply hanswered
    obtain ⟨_, hrun, hasked⟩ := comes_viewPosts_nil hanswered posts s
    refine ⟨?_, Sql.Client.sent_of_record hasked⟩
    rw [Sql.Client.outcome, Sql.Client.overDatabase, Dialogue.run_expand_eq]
    exact congrArg Prod.fst hrun

theorem viewPosts_plain_of_ada :
    let ada : User := ⟨⟨1⟩, ⟨"ada@example.com", by decide⟩, "Ada", "King", true, .ofRow 0, .ofRow 0⟩
    let row : Sql.UserRow := ⟨some 1, some "ada@example.com", some "Ada", some "King", some true,
      some 0, some 0⟩
    let post (author : UserId) : Post :=
      ⟨⟨7⟩, "Notes", "On engines", author, true, .ofRow 0, .ofRow 0⟩
    let posts := [post ⟨1⟩, post ⟨1⟩, post ⟨2⟩, post ⟨1⟩, post ⟨3⟩]
    let lookup : Lookup := fun _ => .ok (some ada)
    let reply (s : Sql.Statement) (state : Unit) : s.Reply × Unit := match s with
      | .fetchUser _ => (.ok [row], state)
      | _ => (.error ⟨"42P01", "relation does not exist", none⟩, state)
    lookup.AnsweredBy (Sql.Client.answering reply) ∧
    Sql.Client.outcome reply () (viewPosts [] posts).run = .error (.orphan ⟨⟨7⟩, ⟨2⟩⟩) ∧
    ((posts.mapM viewPost : Handler _).run.run (Sql.Client.answering reply) ()).1 =
      .error (.orphan ⟨⟨7⟩, ⟨2⟩⟩) ∧
    (Sql.Client.sent reply () (viewPosts [] posts).run).map (·.1) =
      [.fetchUser 1, .fetchUser 2] := by
  intro ada row post posts lookup reply
  have hread : row.read = .ok ada := by
    rfl
  have hanswered : lookup.AnsweredBy (Sql.Client.answering reply) := by
    intro id s
    rw [Sql.Client.answering_exchange reply s (c := .fetchUser id) (Sql.Client.fetchUser_eq id)]
    change (some <$> row.read) = _
    rw [hread]
    rfl
  have hviews : posts.mapM lookup.view = .error (.orphan ⟨⟨7⟩, ⟨2⟩⟩) := by
    rfl
  have hauthors : lookup.authors posts = [⟨1⟩, ⟨2⟩] := by decide +kernel
  obtain ⟨hstore, hdatabase⟩ := viewPosts_plain lookup posts ()
  obtain ⟨houtcome, hsent⟩ := hdatabase reply hanswered
  obtain ⟨-, hplain, -⟩ := hstore (Sql.Client.answering reply) hanswered
  rw [hviews] at houtcome hplain
  rw [hauthors] at hsent
  exact ⟨hanswered, houtcome, hplain, hsent⟩

end Handler

end Bulletin
