import Bulletin.Proofs.Sql.Kept

namespace Bulletin.Sql

variable {α β : Type} {db : Database} {now : Int64} {s s' : db.State} {m : Memory}

def Session.on (h : Session α) (db : Database) (now : Int64) (s : db.State) :
    Except StoreError α × db.State := Dialogue.attempt (db.answer now) h s

theorem on_bind (h : Session α) (f : α → Session β) : (h >>= f).on db now s =
    match h.on db now s with
    | (.ok a, s') => (f a).on db now s'
    | (.error e, s') => (.error e, s') := by
  unfold Session.on
  rw [Dialogue.attempt_bind]
  cases Dialogue.attempt (db.answer now) h s with
  | mk outcome s' => cases outcome <;> rfl

theorem on_bind_ok {h : Session α} {f : α → Session β} {a : α} (hon : h.on db now s = (.ok a, s')) :
    (h >>= f).on db now s = (f a).on db now s' := by
  rw [on_bind, hon]

theorem on_bind_error {h : Session α} {f : α → Session β} {e : StoreError}
    (hon : h.on db now s = (.error e, s')) : (h >>= f).on db now s = (.error e, s') := by
  rw [on_bind, hon]

theorem on_lift_ok {r : Except DatabaseError α} {a : α} (h : r = .ok a) :
    (Client.lift r).on db now s = (.ok a, s) := by
  rw [h]
  rfl

section Send

variable {conflict : Refusal → Option StoreError} {statement : Statement}

theorem on_sendOr_ok {answer : statement.Answer}
    (h : db.answer now statement s = (.ok answer, s')) :
    (Client.sendOr conflict statement).on db now s = (.ok answer, s') := by
  change ((db.answer now statement s).1.mapError _, (db.answer now statement s).2) = _
  rw [h]
  rfl

theorem on_sendOr_conflict {r : Refusal} {key : String} {conflict : Option StoreError}
    {e : StoreError} (h : db.answer now statement s = (.error r, s'))
    (hr : r.constraint = some key) (he : conflict = some e) :
    (Client.sendOr (Client.onKey key conflict) statement).on db now s = (.error e, s') := by
  change ((db.answer now statement s).1.mapError _, (db.answer now statement s).2) = _
  rw [h]
  simp only [Except.mapError, Client.onKey, hr, he, if_true, Option.getD_some]

end Send

def StoredUser.record (u : StoredUser) : UserRecord :=
  ⟨u.userId, u.email, u.firstName, u.lastName, u.isActive, .ofRow u.createdAt, .ofRow u.updatedAt⟩

theorem decode_userRow (u : StoredUser) : u.row.decode = .ok u.record := rfl

def StoredPost.record (p : StoredPost) : PostRecord :=
  ⟨p.postId, p.title, p.content, p.userId, p.published, .ofRow p.createdAt, .ofRow p.updatedAt⟩

theorem decode_postRow (p : StoredPost) : p.row.decode = .ok p.record := rfl

theorem toUser_record {user : User} (h : user.createdAt.Whole ∧ user.updatedAt.Whole) :
    user.stored.record.toUser = .ok user := by
  obtain ⟨hcreated, hupdated⟩ := h
  unfold Timestamp.Whole at hcreated hupdated
  simp [UserRecord.toUser, StoredUser.record, User.stored, hcreated, hupdated]

theorem toPost_record {post : Post} (h : post.createdAt.Whole ∧ post.updatedAt.Whole) :
    post.stored.record.toPost = post := by
  obtain ⟨hcreated, hupdated⟩ := h
  unfold Timestamp.Whole at hcreated hupdated
  simp [PostRecord.toPost, StoredPost.record, Post.stored, hcreated, hupdated]

theorem on_toUser {user : User} (h : user.createdAt.Whole ∧ user.updatedAt.Whole) :
    (Client.toUser user.stored.record).on db now s = (.ok user, s) := by
  change (user.stored.record.toUser.mapError StoreError.data, s) = _
  rw [toUser_record h]
  rfl

theorem map_toPost {posts : List Post}
    (h : ∀ post ∈ posts, post.createdAt.Whole ∧ post.updatedAt.Whole) :
    ((posts.map Post.stored).map StoredPost.record).map PostRecord.toPost = posts := by
  rw [List.map_map, List.map_map]
  exact (List.map_congr_left fun post hpost => toPost_record (h post hpost)).trans posts.map_id

theorem mapM_decode {row : α → β} {γ : Type} {record : α → γ}
    {decode : β → Except DatabaseError γ} (h : ∀ a, decode (row a) = .ok (record a)) (l : List α) :
    (l.map row).mapM decode = .ok (l.map record) := by
  induction l with
  | nil => rfl
  | cons a l ih => simp [h, ih, bind, Except.bind, pure, Except.pure]

theorem on_toUsers {users : List User}
    (h : ∀ user ∈ users, user.createdAt.Whole ∧ user.updatedAt.Whole) :
    (((users.map User.stored).map StoredUser.record).mapM Client.toUser).on db now s =
      (.ok users, s) := by
  induction users with
  | nil => rfl
  | cons user users ih =>
    have hrest := ih fun user huser => h user (List.mem_cons_of_mem _ huser)
    rw [List.map_cons, List.map_cons, List.mapM_cons, on_bind, on_toUser (h user List.mem_cons_self)]
    dsimp only
    rw [on_bind, hrest]
    rfl

theorem eq_of_sorted {key : α → Int64} {found l : List α} (hfound : (found : Multiset α) = l)
    (hsorted : found.Pairwise (key · ≤ key ·)) (hl : l.Pairwise (key · < key ·)) : found = l := by
  have hperm := Multiset.coe_eq_coe.1 hfound
  have hnodup : (l.map key).Nodup := List.pairwise_map.2 (hl.imp Int64.ne_of_lt)
  refine hperm.eq_of_pairwise ?_ hsorted (hl.imp Int64.le_of_lt)
  intro a b ha hb hab hba
  exact List.inj_on_of_nodup_map hnodup (hperm.subset ha) hb (Int64.le_antisymm hab hba)

theorem eq_toList {found : List α} {o : Option α} (h : (found : Multiset α) = o.toList) :
    found = o.toList := by
  cases o with
  | none => exact List.perm_nil.1 (Multiset.coe_eq_coe.1 h)
  | some a => exact List.perm_singleton.1 (Multiset.coe_eq_coe.1 h)

theorem pairwise_toRow {entity : Entity} {t : Table entity α} {ident : α → Id entity}
    (hkeyed : t.Keyed ident) (hnumbered : t.Numbered ident) (hsmall : t.last.toNat < 2 ^ 63) :
    t.values.Pairwise fun a b => (ident a).toRow < (ident b).toRow := by
  have hid a (ha : a ∈ t.values) : (ident a).toRow.toInt = (ident a).number.toNat := by
    apply Id.toInt_toRow
    exact lt_of_le_of_lt (UInt64.le_iff_toNat_le.1 (hnumbered a ha).2) hsmall
  apply hkeyed.values_ascending.imp_of_mem
  intro a b ha hb hlt
  have := UInt64.lt_iff_toNat_lt.1 hlt
  rw [Int64.lt_iff_toInt_lt, hid a ha, hid b hb]
  omega

/-- How the tables hold what there is of one kind, and how a row is read back. -/
structure Storing (k : Kind entity α) (β γ : Type) where
  lines : Tables → Multiset β
  stored : α → β
  key : β → Int64
  row : β → γ
  read : γ → Session α
  key_stored : ∀ a, key (stored a) = (k.ident a).toRow
  on_read : ∀ {db : Database} {now : Int64} {s : db.State} {a : α},
    (k.createdAt a).Whole ∧ (k.updatedAt a).Whole →
      (read (row (stored a))).on db now s = (.ok a, s)

namespace Storing

def users : Storing Kind.users StoredUser UserRow where
  lines := Tables.users
  stored := User.stored
  key := StoredUser.userId
  row := StoredUser.row
  read := Client.readUser
  key_stored _ := rfl
  on_read h := on_toUser h

def posts : Storing Kind.posts StoredPost PostRow where
  lines := Tables.posts
  stored := Post.stored
  key := StoredPost.postId
  row := StoredPost.row
  read := Client.readPost
  key_stored _ := rfl
  on_read h := congrArg (fun post => (Except.ok post, _)) (toPost_record h)

variable {entity : Entity} {k : Kind entity α} {γ : Type} (x : Storing k β γ)

def Keeps (m : Memory) (t : Tables) : Prop :=
  x.lines t = ((k.table m).values.map x.stored : List β)

theorem on_head? {o : Option α}
    (h : ∀ a ∈ o, (k.createdAt a).Whole ∧ (k.updatedAt a).Whole) :
    ((((o.map x.stored).toList.map x.row).head?).mapM x.read).on db now s = (.ok o, s) := by
  cases o with
  | none => rfl
  | some a => exact on_bind_ok (x.on_read (h a rfl))

theorem sorted (hkeyed : (k.table m).Keyed k.ident) (hnumbered : (k.table m).Numbered k.ident)
    (hsmall : (k.table m).last.toNat < 2 ^ 63) :
    ((k.table m).values.map x.stored).Pairwise (x.key · < x.key ·) := by
  refine List.pairwise_map.2 ?_
  simp only [x.key_stored]
  exact pairwise_toRow hkeyed hnumbered hsmall

variable {x} {t : Tables} (h : x.Keeps m t)
include h

theorem Keeps.map_lines {revise : α → α} {update : β → β}
    (hupdate : ∀ a ∈ (k.table m).values, x.stored (revise a) = update (x.stored a))
    (id : Id entity) :
    (x.lines t).map (fun line => if x.key line = id.toRow then update line else line) =
      (((k.table m).values.map fun a => if k.ident a = id then revise a else a).map x.stored :
        List β) := by
  rw [h, Multiset.map_coe, List.map_map, List.map_map]
  apply congrArg
  apply List.map_congr_left
  intro a ha
  by_cases hid : k.ident a = id
  · simp [x.key_stored, hid, hupdate a ha]
  · simp [x.key_stored, hid, Id.toRow_inj]

variable (hkeyed : (k.table m).Keyed k.ident)
include hkeyed

theorem Keeps.filter_lines (id : Id entity) :
    (x.lines t).filter (x.key · = id.toRow) = (((k.table m).get? id).map x.stored).toList := by
  rw [h, Multiset.filter_coe, List.filter_map, Option.toList_map, ← hkeyed.filter_eq id]
  simp [Function.comp_def, x.key_stored, Id.toRow_inj]

theorem Keeps.count_lines (id : Id entity) :
    decide (0 < ((x.lines t).filter (x.key · = id.toRow)).card) = (k.table m).contains id := by
  rw [h.filter_lines hkeyed, Table.contains]
  cases (k.table m).get? id <;> rfl

theorem Keeps.erase (id : Id entity) : (x.lines t).filter (x.key · ≠ id.toRow) =
    (((k.table m).erase id).values.map x.stored : List β) := by
  rw [h, hkeyed.values_erase, Multiset.filter_coe, List.filter_map]
  simp [Function.comp_def, x.key_stored, Id.toRow_inj]

theorem Keeps.replace {id : Id entity} {a : α} {revise : α → α} {update : β → β}
    (hfound : (k.table m).get? id = some a)
    (hupdate : ∀ a ∈ (k.table m).values, x.stored (revise a) = update (x.stored a)) :
    (x.lines t).map (fun line => if x.key line = id.toRow then update line else line) =
      (((k.table m).replace id (revise a)).values.map x.stored : List β) := by
  rw [hkeyed.values_replace hfound]
  exact h.map_lines hupdate id

theorem Keeps.on_selected {id : Id entity} {reply : Except Refusal (List γ)}
    (hwhole : ∀ a ∈ (k.table m).values, (k.createdAt a).Whole ∧ (k.updatedAt a).Whole)
    (hreply : Selects ((x.lines t).filter (x.key · = id.toRow)) x.row reply) :
    ∃ answer, reply = .ok answer ∧ ∀ s : db.State,
      ((answer.head?).mapM x.read).on db now s = (.ok ((k.table m).get? id), s) := by
  obtain ⟨found, hfound, rfl⟩ := hreply
  rw [h.filter_lines hkeyed] at hfound
  refine ⟨_, rfl, fun s => ?_⟩
  rw [eq_toList hfound]
  exact x.on_head? fun a ha => hwhole a (hkeyed.get?_eq_some_iff.1 ha).1

theorem Keeps.changed {id : Id entity} {changed : List β} {revise : α → α} {update : β → β}
    (hupdate : ∀ a ∈ (k.table m).values, x.stored (revise a) = update (x.stored a))
    (hchanged : (changed : Multiset β) =
      ((x.lines t).filter (x.key · = id.toRow)).map update) :
    changed = ((((k.table m).get? id).map revise).map x.stored).toList := by
  apply eq_toList
  rw [hchanged, h.filter_lines hkeyed]
  cases hfound : (k.table m).get? id with
  | none => rfl
  | some a =>
    have hstored := hupdate a (hkeyed.get?_eq_some_iff.1 hfound).1
    simp [hstored]

theorem Keeps.add (hnumbered : (k.table m).Numbered k.ident)
    (hroom : (k.table m).last.toNat + 1 < 2 ^ 64) (f : Id entity → α) :
    x.stored (f ⟨(k.table m).last + 1⟩) ::ₘ x.lines t =
      (((k.table m).add f).2.values.map x.stored : List β) := by
  rw [h, hnumbered.values_add hkeyed hroom, List.map_append, List.map_singleton,
    Multiset.cons_coe, Multiset.coe_eq_coe]
  exact (List.perm_append_singleton _ _).symm

end Storing

namespace Kept

variable {t : Tables} (h : Kept m t)
include h

theorem users_sorted : (m.users.values.map User.stored).Pairwise (·.userId < ·.userId) :=
  Storing.users.sorted h.sound.users h.sound.userIds h.smallUsers

theorem posts_sorted : (m.posts.values.map Post.stored).Pairwise (·.postId < ·.postId) :=
  Storing.posts.sorted h.sound.posts h.sound.postIds h.smallPosts

theorem keeps_users : Storing.users.Keeps m t := h.users

theorem keeps_posts : Storing.posts.Keeps m t := h.posts

theorem filter_author (id : UserId) : t.posts.filter (·.userId = id.toRow) =
    (m.posts.values.filter (·.author = id)).map Post.stored := by
  rw [h.posts, Multiset.filter_coe, List.filter_map]
  simp [Function.comp_def, Post.stored, Id.toRow_inj]

theorem exists_user (id : UserId) : (∃ u ∈ t.users, u.userId = id.toRow) ↔ m.users.contains id := by
  rw [h.users, h.sound.users.contains_iff]
  simp [User.stored, Id.toRow_inj]

end Kept

/-- A call has the reply that the store in memory gives, and the tables keep what it leaves. -/
def Agrees (db : Database) (now : Int64) (m : Memory) (s : db.State) (c : Call) : Prop :=
  ((Client.perform c).on db now s).1 = (m.exec (.ofRow now) c).1 ∧
    Kept (m.exec (.ofRow now) c).2 (db.tables ((Client.perform c).on db now s).2)

theorem agrees_of {c : Call} {reply : c.Reply} {m' : Memory}
    (hexec : m.exec (.ofRow now) c = (reply, m'))
    (hon : (Client.perform c).on db now s = (reply, s')) (h : Kept m' (db.tables s')) :
    Agrees db now m s c := by
  rw [Agrees, hexec, hon]
  exact ⟨rfl, h⟩

section Steps

variable {c : Call} {q : Statement} {result : c.Result} {read : q.Answer → Session c.Result}
variable {conflict : Refusal → Option StoreError} {answer : q.Answer} {aim : Tables} {m' : Memory}

theorem agrees_of_commit
    (hperform : Client.perform c = Client.sendOr conflict q >>= read)
    (hmeaning : ∀ {reply t'}, q.Meaning now (db.tables s) reply t' →
      Commits (db.tables s) aim answer reply t')
    (hexec : m.exec (.ofRow now) c = (.ok result, m')) (hnext : Kept m' aim)
    (hread : ∀ s' : db.State, (read answer).on db now s' = (.ok result, s')) :
    Agrees db now m s c := by
  have hcommits := hmeaning (db.meaning now q s)
  cases hanswer : db.answer now q s with
  | mk reply s' =>
    rw [hanswer] at hcommits
    obtain ⟨rfl, ht⟩ := hcommits.ok hnext.meets
    refine agrees_of hexec ?_ (ht ▸ hnext)
    rw [hperform]
    exact (on_bind_ok (on_sendOr_ok hanswer)).trans (hread s')

variable (h : Kept m (db.tables s))
include h

theorem agrees_of_unchanged {reply : c.Reply} (hexec : m.exec (.ofRow now) c = (reply, m))
    (hon : (Client.perform c).on db now s = (reply, s')) (ht : db.tables s' = db.tables s) :
    Agrees db now m s c :=
  agrees_of hexec hon (ht ▸ h)

theorem agrees_of_select (hperform : Client.perform c = Client.send q >>= read)
    (hexec : m.exec (.ofRow now) c = (.ok result, m))
    (hmeaning : ∀ {reply t'}, q.Meaning now (db.tables s) reply t' → t' = db.tables s ∧
      ∃ answer, reply = .ok answer ∧
        ∀ s' : db.State, (read answer).on db now s' = (.ok result, s')) :
    Agrees db now m s c := by
  have hselects := hmeaning (db.meaning now q s)
  cases hanswer : db.answer now q s with
  | mk reply s' =>
    rw [hanswer] at hselects
    obtain ⟨ht, answer, rfl, hread⟩ := hselects
    refine agrees_of_unchanged h hexec ?_ ht
    rw [hperform]
    exact (on_bind_ok (on_sendOr_ok hanswer)).trans (hread s')

theorem agrees_of_conflict {key : Constraint} {conflict : Option StoreError} {e : StoreError}
    (hperform : Client.perform c = Client.sendOr (Client.onKey key.name conflict) q >>= read)
    (hmeaning : ∀ {reply t'}, q.Meaning now (db.tables s) reply t' →
      Commits (db.tables s) aim answer reply t')
    (hbroken : ¬ aim.Meets key) (hothers : ∀ other, other ≠ key → aim.Meets other)
    (hconflict : conflict = some e) (hexec : m.exec (.ofRow now) c = (.error e, m)) :
    Agrees db now m s c := by
  have hcommits := hmeaning (db.meaning now q s)
  cases hanswer : db.answer now q s with
  | mk reply s' =>
    rw [hanswer] at hcommits
    obtain ⟨⟨r, rfl, hr⟩, ht⟩ := hcommits.error hbroken hothers
    refine agrees_of_unchanged h hexec ?_ ht
    rw [hperform]
    exact on_bind_error (on_sendOr_conflict hanswer hr hconflict)

end Steps

section Reads

variable (h : Kept m (db.tables s))
include h

theorem agrees_listUsers : Agrees db now m s .listUsers := by
  refine agrees_of_select (q := .listUsers) h rfl rfl ?_
  rintro reply t' ⟨ht, found, hfound, hsorted, rfl⟩
  cases eq_of_sorted (hfound.trans h.users) hsorted h.users_sorted
  refine ⟨ht, _, rfl, fun s' => ?_⟩
  exact (on_bind_ok (on_lift_ok (mapM_decode decode_userRow _))).trans (on_toUsers h.whole.users)

theorem agrees_listPosts : Agrees db now m s .listPosts := by
  refine agrees_of_select (q := .listPosts) h rfl rfl ?_
  rintro reply t' ⟨ht, found, hfound, hsorted, rfl⟩
  cases eq_of_sorted (hfound.trans h.posts) hsorted h.posts_sorted
  refine ⟨ht, _, rfl, fun s' => ?_⟩
  refine (on_bind_ok (on_lift_ok (mapM_decode decode_postRow _))).trans ?_
  exact congrArg (fun posts => (Except.ok posts, s')) (map_toPost h.whole.posts)

theorem agrees_fetchUser (id : UserId) : Agrees db now m s (.fetchUser id) :=
  agrees_of_select (q := .fetchUser id.toRow) h rfl rfl <|
    And.imp_right (h.keeps_users.on_selected h.sound.users h.whole.users)

theorem agrees_fetchPost (id : PostId) : Agrees db now m s (.fetchPost id) :=
  agrees_of_select (q := .fetchPost id.toRow) h rfl rfl <|
    And.imp_right (h.keeps_posts.on_selected h.sound.posts h.whole.posts)

theorem on_userExists (now : Int64) (id : UserId) : ∃ s', db.tables s' = db.tables s ∧
    (Client.userExists id).on db now s = (.ok (m.users.contains id), s') := by
  have hmeaning := db.meaning now (.userExists id.toRow) s
  cases hanswer : db.answer now (.userExists id.toRow) s with
  | mk reply s' =>
    rw [hanswer] at hmeaning
    obtain ⟨ht, found, hfound, rfl⟩ := hmeaning
    rw [h.exists_user, Bool.eq_iff_iff.symm] at hfound
    subst hfound
    exact ⟨s', ht, on_bind_ok (on_sendOr_ok hanswer)⟩

theorem agrees_fetchUserPosts (id : UserId) : Agrees db now m s (.fetchUserPosts id) := by
  obtain ⟨s', ht, hon⟩ := on_userExists h now id
  cases hknown : m.users.contains id with
  | false =>
    rw [hknown] at hon
    have hnone : m.userPosts id = none := by simp [Memory.userPosts, hknown]
    refine agrees_of_unchanged h (congrArg (fun posts => (Except.ok posts, m)) hnone) ?_ ht
    exact on_bind_ok hon
  | true =>
    rw [hknown] at hon
    have hsome : m.userPosts id = some (m.posts.values.filter (·.author = id)) := by
      simp [Memory.userPosts, hknown]
    have hmeaning := db.meaning now (.listUserPosts id.toRow) s'
    cases hanswer : db.answer now (.listUserPosts id.toRow) s' with
    | mk reply s'' =>
      rw [hanswer, ht] at hmeaning
      obtain ⟨ht', found, hfound, hsorted, rfl⟩ := hmeaning
      rw [h.filter_author] at hfound
      cases eq_of_sorted hfound hsorted (h.posts_sorted.sublist (List.filter_sublist.map _))
      refine agrees_of_unchanged h (congrArg (fun posts => (Except.ok posts, m)) hsome) ?_ ht'
      refine (on_bind_ok hon).trans ?_
      refine (on_bind_ok (on_sendOr_ok hanswer)).trans ?_
      refine (on_bind_ok (on_lift_ok (mapM_decode decode_postRow _))).trans ?_
      have hwhole post (hpost : post ∈ m.posts.values.filter (·.author = id)) :=
        h.whole.posts post (List.mem_of_mem_filter hpost)
      exact congrArg (fun posts => (Except.ok (some posts), s'')) (map_toPost hwhole)

end Reads

end Bulletin.Sql
