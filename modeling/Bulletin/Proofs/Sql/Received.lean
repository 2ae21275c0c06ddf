import Bulletin.Proofs.Dialogue
import Bulletin.Sql.Client
import Bulletin.Sql.Received

namespace Bulletin

section Decided

variable {α β γ δ ε : Type}

/-- The result is an error if there is a fault, and only then. -/
inductive Decided (Q : α → Prop) : Option ε → Except ε α → Prop
  | error {e} : Decided Q (some e) (.error e)
  | ok {a} : Q a → Decided Q none (.ok a)

namespace Decided

variable {Q : α → Prop} {R : β → Prop} {fault? fault?' : Option ε} {x : Except ε α}

theorem eq_error {e : ε} (h : Decided Q (some e) x) : x = .error e := by
  cases h
  rfl

theorem exists_ok (h : Decided Q none x) : ∃ a, x = .ok a ∧ Q a := by
  cases h with
  | ok ha => exact ⟨_, rfl, ha⟩

theorem of_ok {a : α} (h : Decided Q fault? (.ok a)) : fault? = none ∧ Q a := by
  cases h with
  | ok ha => exact ⟨rfl, ha⟩

theorem holds {a : α} (h : Decided Q fault? x) (hx : x = .ok a) : Q a := by
  subst hx
  exact h.of_ok.2

theorem of_error {e : ε} (h : Decided Q fault? (.error e)) : fault? = some e := by
  cases h
  rfl

theorem imp {P : α → Prop} (hPQ : ∀ a, P a → Q a) (h : Decided P fault? x) :
    Decided Q fault? x := by
  cases h with
  | error => exact .error
  | ok ha => exact .ok (hPQ _ ha)

theorem mapError (f : ε → δ) (h : Decided Q fault? x) :
    Decided Q (fault?.map f) (x.mapError f) := by
  cases h with
  | error => exact .error
  | ok ha => exact .ok ha

theorem bind {f : α → Except ε β} (h : Decided (fun a => Decided R fault?' (f a)) fault? x) :
    Decided R (fault?.or fault?') (x >>= f) := by
  cases h with
  | error => exact .error
  | ok ha => exact ha

theorem map {f : α → β} (h : Decided (fun a => R (f a)) fault? x) :
    Decided R fault? (x >>= fun a => pure (f a)) := by
  cases h with
  | error => exact .error
  | ok ha => exact .ok ha

theorem mapM {Q : α → γ → Prop} {fault? : α → Option ε} {f : β → Except ε γ} {l : List α}
    {l' : List β} (h : List.Forall₂ (fun a b => Decided (Q a) (fault? a) (f b)) l l') :
    Decided (List.Forall₂ Q l) (l.findSome? fault?) (l'.mapM f) := by
  induction h with
  | nil => exact .ok .nil
  | @cons a b l l' ha _ ih =>
    rw [List.findSome?_cons, List.mapM_cons]
    cases hfault : fault? a with
    | some e =>
      rw [hfault] at ha
      rw [ha.eq_error]
      exact .error
    | none =>
      rw [hfault] at ha
      obtain ⟨c, hc, hQ⟩ := ha.exists_ok
      rw [hc]
      exact map (ih.imp fun l hl => .cons hQ hl)

end Decided

end Decided

theorem Email.text_of_ofText {s : String} {email : Email} (h : ofText s = .ok email) :
    email.text = s := by
  unfold ofText at h
  split at h
  · cases h
  · split at h
    · cases h
      rfl
    · cases h

namespace Sql

variable {α β : Type}

def nullError (name : String) : DatabaseError := .unexpectedNull (.named name)

theorem decided_column {Q : β → Prop} {name : String} {columns : List (String × Bool)}
    {x : Option α} {f : α → Except DatabaseError β}
    (h : ∀ a, x = some a → Decided Q ((firstNull columns).map nullError) (f a)) :
    Decided Q ((firstNull ((name, x.isNone) :: columns)).map nullError) (column name x >>= f) := by
  cases x with
  | none => exact .error
  | some a => exact h a rfl

theorem UserRow.decided (row : UserRow) :
    Decided (fun record => Decided row.Carries row.refused? record.toUser)
      (row.null?.map nullError) row.decode := by
  obtain ⟨userId?, email?, firstName?, lastName?, isActive?, createdAt?, updatedAt?⟩ := row
  apply decided_column
  rintro userId rfl
  apply decided_column
  rintro email rfl
  apply decided_column
  rintro firstName rfl
  apply decided_column
  rintro lastName rfl
  apply decided_column
  rintro isActive rfl
  apply decided_column
  rintro createdAt rfl
  apply decided_column
  rintro updatedAt rfl
  refine .ok ?_
  rw [refused?, UserRecord.toUser]
  cases hemail : Email.ofText email with
  | error e =>
    simp only [Option.bind_some, hemail]
    exact .error
  | ok accepted =>
    simp only [Option.bind_some, hemail]
    exact .ok ⟨rfl, congrArg some (Email.text_of_ofText hemail).symm, rfl, rfl, rfl, rfl, rfl⟩

theorem PostRow.decided (row : PostRow) :
    Decided (fun record => row.Carries record.toPost) (row.null?.map nullError) row.decode := by
  obtain ⟨postId?, title?, content?, userId?, published?, createdAt?, updatedAt?⟩ := row
  apply decided_column
  rintro postId rfl
  apply decided_column
  rintro title rfl
  apply decided_column
  rintro content rfl
  apply decided_column
  rintro userId rfl
  apply decided_column
  rintro published rfl
  apply decided_column
  rintro createdAt rfl
  apply decided_column
  rintro updatedAt rfl
  exact .ok ⟨rfl, rfl, rfl, rfl, rfl, rfl, rfl⟩

theorem UserRow.decided_read (row : UserRow) : Decided row.Carries
    ((row.null?.map fun name => .database (nullError name)).or (row.refused?.map .data))
    row.read := by
  have h := row.decided.mapError StoreError.database
  rw [Option.map_map] at h
  exact .bind (h.imp fun _ hrecord => hrecord.mapError StoreError.data)

theorem PostRow.decided_read (row : PostRow) : Decided row.Carries
    (row.null?.map fun name => .database (nullError name)) row.read := by
  have h := row.decided.mapError StoreError.database
  rw [Option.map_map] at h
  exact .map h

theorem decided_rows {Q : α → β → Prop} {null? : α → Option String}
    {decode : α → Except DatabaseError β}
    (h : ∀ row, Decided (Q row) ((null? row).map nullError) (decode row)) (rows : List α) :
    Decided (List.Forall₂ Q rows)
      ((rows.findSome? null?).map fun name => .database (nullError name))
      ((rows.mapM decode).mapError StoreError.database) := by
  have hrows := Decided.mapM (List.forall₂_same.2 fun row _ => h row : List.Forall₂ _ rows rows)
  change Decided _ (rows.findSome? (Option.map nullError ∘ null?)) _ at hrows
  rw [← List.map_findSome?] at hrows
  have hdatabase := hrows.mapError StoreError.database
  rw [Option.map_map] at hdatabase
  exact hdatabase

theorem decided_readUsers (rows : List UserRow) : Decided (List.Forall₂ UserRow.Carries rows)
    (((rows.findSome? UserRow.null?).map fun name => .database (nullError name)).or
      ((rows.findSome? UserRow.refused?).map .data)) (readUsers rows) :=
  .bind <| (decided_rows UserRow.decided rows).imp fun _ hrecords =>
    (Decided.mapM hrecords).mapError StoreError.data

theorem decided_readPosts (rows : List PostRow) : Decided (List.Forall₂ PostRow.Carries rows)
    ((rows.findSome? PostRow.null?).map fun name => .database (nullError name)) (readPosts rows) :=
  .map <| (decided_rows PostRow.decided rows).imp fun _ hrecords =>
    List.forall₂_map_right_iff.2 hrecords

theorem AllOrNothing.of_decided {null? : α → Option String} {refused? : α → Option Email.Invalid}
    {Carries : α → β → Prop} {rows : List α} {result : Except StoreError (List β)}
    (h : Decided (List.Forall₂ Carries rows)
      (((rows.findSome? null?).map fun name => .database (nullError name)).or
        ((rows.findSome? refused?).map .data)) result) :
    AllOrNothing null? refused? Carries rows result where
  listed := by
    constructor
    · rintro ⟨items, rfl⟩
      have hnone := h.of_ok.1
      rw [Option.or_eq_none_iff, Option.map_eq_none_iff, Option.map_eq_none_iff,
        List.findSome?_eq_none_iff, List.findSome?_eq_none_iff] at hnone
      exact fun row hrow => ⟨hnone.1 row hrow, hnone.2 row hrow⟩
    · intro hrows
      rw [List.findSome?_eq_none_iff.2 fun row hrow => (hrows row hrow).1,
        List.findSome?_eq_none_iff.2 fun row hrow => (hrows row hrow).2] at h
      obtain ⟨items, hitems, -⟩ := h.exists_ok
      exact ⟨items, hitems⟩
  carried := by
    rintro items rfl
    exact h.of_ok.2
  null name hname := by
    rw [hname] at h
    exact h.eq_error
  refused hnull e he := by
    rw [hnull, he] at h
    exact h.eq_error

theorem AllOrNothing.of_nulls {null? : α → Option String} {Carries : α → β → Prop} {rows : List α}
    {result : Except StoreError (List β)} (h : Decided (List.Forall₂ Carries rows)
      ((rows.findSome? null?).map fun name => .database (nullError name)) result) :
    AllOrNothing null? (fun _ => none) Carries rows result := by
  apply AllOrNothing.of_decided
  rw [List.findSome?_eq_none_iff.2 fun _ _ => rfl, Option.map_none, Option.or_none]
  exact h

def Internal (e : StoreError) : Prop := (∃ d, e = .database d) ∨ ∃ i, e = .data i

def Sound (x : Except StoreError α) : Prop := ∀ e, x = .error e → Internal e

theorem sound_ok (a : α) : Sound (.ok a) := nofun

theorem sound_database (e : DatabaseError) : Sound (.error (.database e) : Except _ α) := by
  rintro _ ⟨⟩
  exact .inl ⟨e, rfl⟩

theorem Sound.bind {x : Except StoreError α} {f : α → Except StoreError β} (hx : Sound x)
    (hf : ∀ a, Sound (f a)) : Sound (x >>= f) := by
  cases x with
  | ok a => exact hf a
  | error e =>
    rintro _ ⟨⟩
    exact hx e rfl

theorem Sound.map {x : Except StoreError α} (hx : Sound x) (f : α → β) : Sound (f <$> x) := by
  cases x with
  | ok a => exact sound_ok (f a)
  | error e => exact fun e' he' => hx e' (by cases he'; rfl)

theorem head?_ok {read : α → Except StoreError β} {rows : List α} {item? : Option β}
    (h : rows.head?.mapM read = .ok item?) : (rows = [] ∧ item? = none) ∨
      ∃ row rest item, rows = row :: rest ∧ item? = some item ∧ read row = .ok item := by
  cases rows with
  | nil =>
    cases h
    exact .inl ⟨rfl, rfl⟩
  | cons row rest =>
    change (some <$> read row) = _ at h
    cases hread : read row with
    | error e =>
      rw [hread] at h
      cases h
    | ok item =>
      rw [hread] at h
      cases h
      exact .inr ⟨row, rest, item, rfl, rfl, hread⟩

theorem sound_head? {read : α → Except StoreError β} (h : ∀ row, Sound (read row))
    (rows : List α) : Sound (rows.head?.mapM read) := by
  cases rows with
  | nil => exact sound_ok none
  | cons row rows => exact (h row).map some

theorem sound_of_decided {Q : α → Prop} {null? : Option String} {refused? : Option Email.Invalid}
    {x : Except StoreError α} (h : Decided Q
      ((null?.map fun name => .database (nullError name)).or (refused?.map .data)) x) :
    Sound x := by
  rintro e rfl
  obtain hnull | ⟨-, hrefused⟩ := Option.or_eq_some_iff.1 h.of_error
  · obtain ⟨name, -, rfl⟩ := Option.map_eq_some_iff.1 hnull
    exact .inl ⟨_, rfl⟩
  · obtain ⟨i, -, rfl⟩ := Option.map_eq_some_iff.1 hrefused
    exact .inr ⟨i, rfl⟩

theorem sound_readUsers (rows : List UserRow) : Sound (readUsers rows) :=
  sound_of_decided (decided_readUsers rows)

theorem UserRow.sound_read (row : UserRow) : Sound row.read := sound_of_decided row.decided_read

theorem sound_of_nulls {Q : α → Prop} {null? : Option String} {x : Except StoreError α}
    (h : Decided Q (null?.map fun name => .database (nullError name)) x) : Sound x := by
  rw [← Option.or_none (o := null?.map _)] at h
  exact sound_of_decided (show Decided Q (.or _ (Option.map StoreError.data none)) x from h)

theorem PostRow.sound_read (row : PostRow) : Sound row.read := sound_of_nulls row.decided_read

theorem sound_readPosts (rows : List PostRow) : Sound (readPosts rows) :=
  sound_of_nulls (decided_readPosts rows)

namespace Client

def settled (result : Except StoreError α) : Session α := ExceptT.mk (.done result)

def received (conflict : Refusal → Option StoreError) (read : α → Except StoreError β)
    (reply : Except Refusal α) : Except StoreError β :=
  (reply.mapError fun r => (conflict r).getD (.database (.refused r))) >>= read

/-- A session that sends one statement. -/
def exchange (conflict : Refusal → Option StoreError) (s : Statement)
    (read : s.Answer → Except StoreError α) : Session α :=
  ExceptT.mk (.ask s fun reply => .done (received conflict read reply))

theorem sound_received {read : α → Except StoreError β} (h : ∀ a, Sound (read a))
    (reply : Except Refusal α) : Sound (received (fun _ => none) read reply) := by
  cases reply with
  | ok answer => exact h answer
  | error r => exact sound_database (.refused r)

theorem settled_bind (x : Except StoreError α) {f : α → Session β} {g : α → Except StoreError β}
    (h : ∀ a, f a = settled (g a)) : (settled x >>= f) = settled (x >>= g) := by
  cases x with
  | ok a => exact h a
  | error e => rfl

theorem sendOr_bind (conflict : Refusal → Option StoreError) (s : Statement)
    {f : s.Answer → Session α} {read : s.Answer → Except StoreError α}
    (h : ∀ answer, f answer = settled (read answer)) :
    (sendOr conflict s >>= f) = exchange conflict s read := by
  refine congrArg (Dialogue.ask s) (funext fun reply => ?_)
  cases reply with
  | ok answer => exact h answer
  | error r => rfl

theorem readUser_eq (row : UserRow) : readUser row = settled row.read :=
  settled_bind _ fun _ => rfl

theorem readPost_eq (row : PostRow) : readPost row = settled row.read :=
  settled_bind _ fun _ => rfl

theorem head?_eq {read : α → Except StoreError β} {read' : α → Session β}
    (h : ∀ row, read' row = settled (read row)) (rows : List α) :
    rows.head?.mapM read' = settled (rows.head?.mapM read) := by
  cases rows with
  | nil => rfl
  | cons row rows =>
    change (some <$> read' row) = settled (some <$> read row)
    rw [h]
    cases read row <;> rfl

theorem toUsers_eq (records : List UserRecord) :
    records.mapM toUser = settled ((records.mapM UserRecord.toUser).mapError .data) := by
  induction records with
  | nil => rfl
  | cons record records ih =>
    rw [List.mapM_cons, List.mapM_cons, ih, toUser]
    cases record.toUser with
    | error e => rfl
    | ok user => cases records.mapM UserRecord.toUser <;> rfl

theorem listUsers_eq : listUsers = exchange (fun _ => none) .listUsers readUsers :=
  sendOr_bind _ _ fun (_ : List UserRow) => settled_bind _ toUsers_eq

theorem fetchUser_eq (id : UserId) : fetchUser id =
    exchange (fun _ => none) (.fetchUser id.toRow) fun (rows : List UserRow) =>
      rows.head?.mapM UserRow.read :=
  sendOr_bind _ _ (head?_eq readUser_eq)

theorem deleteUser_eq (id : UserId) : deleteUser id =
    exchange (fun _ => none) (.deleteUser id.toRow) fun (count : Nat) => .ok (decide (0 < count)) :=
  sendOr_bind _ _ fun _ => rfl

theorem listPosts_eq : listPosts = exchange (fun _ => none) .listPosts readPosts :=
  sendOr_bind _ _ fun (_ : List PostRow) => settled_bind _ fun _ => rfl

theorem fetchPost_eq (id : PostId) : fetchPost id =
    exchange (fun _ => none) (.fetchPost id.toRow) fun (rows : List PostRow) =>
      rows.head?.mapM PostRow.read :=
  sendOr_bind _ _ (head?_eq readPost_eq)

def first : List α → Except StoreError α
  | row :: _ => .ok row
  | [] => .error (.database .noRow)

theorem one_eq (rows : List α) : one rows = settled (first rows) := by
  cases rows <;> rfl

def readExists (rows : List (Option Bool)) : Except StoreError Bool := do
  match ← first rows with
  | some found => .ok found
  | none => .error (.database (.unexpectedNull (.numbered 0)))

theorem sound_first (rows : List α) : Sound (first rows) := by
  cases rows with
  | nil => exact sound_database .noRow
  | cons row rows => exact sound_ok row

theorem sound_readExists (rows : List (Option Bool)) : Sound (readExists rows) := by
  apply (sound_first rows).bind
  intro found?
  cases found? with
  | none => exact sound_database _
  | some found => exact sound_ok found

theorem userExists_eq (id : UserId) : userExists id =
    exchange (fun _ => none) (.userExists id.toRow) readExists := by
  refine sendOr_bind _ _ fun (rows : List (Option Bool)) => ?_
  rw [one_eq]
  refine settled_bind _ fun found? => ?_
  cases found? <;> rfl

theorem fetchUserPosts_eq (id : UserId) : fetchUserPosts id =
    (exchange (fun _ => none) (.userExists id.toRow) readExists >>= fun found =>
      if found then
        exchange (fun _ => none) (.listUserPosts id.toRow) fun rows => some <$> readPosts rows
      else pure none) := by
  rw [fetchUserPosts, userExists_eq]
  congr 1
  funext found
  cases found with
  | false => rfl
  | true =>
    refine sendOr_bind _ _ fun (rows : List PostRow) => ?_
    change (lift (rows.mapM PostRow.decode) >>= fun records => pure (some (records.map _))) = _
    rw [readPosts]
    cases rows.mapM PostRow.decode <;> rfl

theorem createUser_eq (new : NewUser) : createUser new =
    exchange (onKey emailKey (some (.emailTaken new.email)))
      (.insertUser new.email.text new.firstName new.lastName new.isActive)
      fun (rows : List UserRow) => first rows >>= UserRow.read := by
  refine sendOr_bind _ _ fun (rows : List UserRow) => ?_
  rw [one_eq]
  exact settled_bind _ readUser_eq

theorem updateUser_eq (id : UserId) (changes : UserChanges) : updateUser id changes =
    exchange (onKey emailKey (changes.email.map .emailTaken))
      (.updateUser id.toRow (changes.email.map (·.text)) changes.firstName changes.lastName
        changes.isActive)
      fun (rows : List UserRow) => rows.head?.mapM UserRow.read :=
  sendOr_bind _ _ (head?_eq readUser_eq)

theorem createPost_eq (new : NewPost) : createPost new =
    exchange (onKey authorKey (some (.unknownAuthor new.author)))
      (.insertPost new.title new.content new.author.toRow new.published)
      fun (rows : List PostRow) => first rows >>= PostRow.read := by
  refine sendOr_bind _ _ fun (rows : List PostRow) => ?_
  rw [one_eq]
  exact settled_bind _ readPost_eq

theorem updatePost_eq (id : PostId) (changes : PostChanges) : updatePost id changes =
    exchange (onKey authorKey (changes.author.map .unknownAuthor))
      (.updatePost id.toRow changes.title changes.content (changes.author.map (·.toRow))
        changes.published)
      fun (rows : List PostRow) => rows.head?.mapM PostRow.read :=
  sendOr_bind _ _ (head?_eq readPost_eq)

theorem deletePost_eq (id : PostId) : deletePost id =
    exchange (fun _ => none) (.deletePost id.toRow) fun (count : Nat) => .ok (decide (0 < count)) :=
  sendOr_bind _ _ fun _ => rfl

end Client

end Sql

end Bulletin
