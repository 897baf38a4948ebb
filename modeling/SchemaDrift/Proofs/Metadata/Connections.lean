import SchemaDrift.Metadata.Database
import SchemaDrift.Proofs.Planner.Alike

/-!
# Scopes of a database

What a client of a database does is a tree: it asks, or enters a scope, and goes on as the answer or
the way in which the scope was left tells it. The connections that such a client leaves behind follow
from what it may do while one is in use, which is to ask, and while none is, which is to open one,
to ask on it and to close it.
-/

namespace SchemaDrift

open Document (Value)

/-! ### Clients -/

def Session.attempt {σ α : Type} (s : Session σ α) : Session σ (Except Fault α) :=
  ExceptT.mk fun t => (.ok ((ExceptT.run s).run t).1, ((ExceptT.run s).run t).2)

/-- A question to a metadata source. -/
inductive Question where
  | foreignKeys (table : String) (column : Option String)
  | defaults (table column : String)
  | indexes (table column : String)

namespace Question

/-- What the answer to a question lists. -/
abbrev Found : Question → Type
  | foreignKeys .. | defaults .. => Value
  | indexes .. => Index

def lookup : Question → Lookup
  | foreignKeys .. => .foreignKeys
  | defaults .. => .defaults
  | indexes .. => .indexes

def table : Question → String
  | foreignKeys table _ | defaults table _ | indexes table _ => table

def ask {σ : Type} (P : Provider σ) : (q : Question) → Session σ (List q.Found)
  | foreignKeys table column => P.foreignKeys table (column.elim .null .text)
  | defaults table column => P.defaults table column
  | indexes table column => P.indexes table column

/-- Whether a database is asked at all. -/
def isAsked (d : Database) : Question → Bool
  | defaults .. => d.queries.defaults?.isSome
  | foreignKeys .. | indexes .. => true

/-- The words in which a database fails at the question as a query of some number, if it does. -/
def failure? (d : Database) : Question → Nat → Option String
  | foreignKeys _ none, n => (d.foreignKeys n).failure?
  | foreignKeys _ (some _), n => (d.columnForeignKeys n).failure?
  | defaults .., n => (d.defaults n).failure?
  | indexes .., n => (d.indexes n).failure?

end Question

/--
What a client does with a metadata source, and the result or fault that it leaves with. It goes on
as an answer, or the way in which it left a scope, tells it.
-/
inductive Client (α : Type) where
  | leave (result : Except Fault α)
  | lookUp (q : Question) (next : Except Fault (List q.Found) → Client α)
  | scope (body : Client α) (next : Except Fault α → Client α)

def Client.session {σ α : Type} (P : Provider σ) : Client α → Session σ α
  | leave result => liftM result
  | lookUp q next => (q.ask P).attempt >>= fun found => (next found).session P
  | scope body next => (P.within (body.session P)).attempt >>= fun left => (next left).session P

/-! ### What connections are used for -/

namespace Connections

def ask (k : Nat) : Nat → Connections → Connections
  | 0, c => c
  | n + 1, c => (ask k n c).query k

/--
How connections are used: on one that is in use queries are made, and while none is in use one is
refused, or it is opened, queries are made on it, and it is closed.
-/
inductive Uses (c : Connections) : Connections → Prop
  | idle : Uses c c
  | asked {c' : Connections} {k : Nat} (earlier : Uses c c') (inUse : c'.active = some k) :
      Uses c (c'.query k)
  | refused {c' : Connections} (earlier : Uses c c') (unused : c'.active = none) : Uses c c'.refuse
  | visited {c' : Connections} (earlier : Uses c c') (unused : c'.active = none) (n : Nat) :
      Uses c ((ask c'.attempts n c'.connect).disconnect c'.attempts)

variable {c c' c'' : Connections} {k : Nat}

theorem active_ask (k n : Nat) (c : Connections) : (ask k n c).active = c.active := by
  induction n with
  | zero => rfl
  | succ n ih => exact ih

theorem history_ask (k n : Nat) (c : Connections) :
    (ask k n c).history = c.history ++ List.replicate n (.asked k) := by
  induction n with
  | zero => exact (List.append_nil _).symm
  | succ n ih =>
    show (ask k n c).history ++ _ = _
    rw [ih, List.replicate_succ', List.append_assoc]

theorem queries_connect (c : Connections) : c.connect.queries = c.queries := by
  simp [queries, connect, ConnectionEvent.isQuery]

theorem Uses.trans (h : Uses c c') (h' : Uses c' c'') : Uses c c'' := by
  induction h' with
  | idle => exact h
  | asked _ inUse ih => exact .asked ih inUse
  | refused _ unused ih => exact .refused ih unused
  | visited _ unused n ih => exact .visited ih unused n

theorem Uses.active_eq (h : Uses c c') : c'.active = c.active := by
  induction h with
  | idle => rfl
  | asked _ _ ih => exact ih
  | refused _ _ ih => exact ih
  | visited _ unused _ ih => exact ih ▸ unused.symm

theorem Uses.eq_ask (h : Uses c c') (inUse : c.active = some k) : ∃ n, c' = ask k n c := by
  induction h with
  | idle => exact ⟨0, rfl⟩
  | @asked c' l earlier active ih =>
    obtain ⟨n, rfl⟩ := ih
    rw [active_ask, inUse] at active
    cases active
    exact ⟨n + 1, rfl⟩
  | refused earlier unused _ =>
    rw [earlier.active_eq, inUse] at unused
    cases unused
  | visited earlier unused _ _ =>
    rw [earlier.active_eq, inUse] at unused
    cases unused

/-! ### Histories -/

/-- What a connection of its own leaves in the history of a scope. -/
def visit (k n : Nat) : List ConnectionEvent :=
  .opened k :: (List.replicate n (.asked k) ++ [.closed k])

theorem history_visited (c : Connections) (n : Nat) :
    ((ask c.attempts n c.connect).disconnect c.attempts).history =
      c.history ++ visit c.attempts n := by
  show (ask _ _ _).history ++ _ = _
  rw [history_ask, connect, visit, List.append_assoc, List.append_assoc, List.singleton_append]

/-- Whether a connection is open after some events. -/
def IsOpenAfter (events : List ConnectionEvent) (k : Nat) : Prop :=
  .opened k ∈ events ∧ .closed k ∉ events

theorem prefix_append_cases {α : Type} {before xs ys : List α} (h : before <+: xs ++ ys) :
    before <+: xs ∨ ∃ rest, before = xs ++ rest ∧ rest <+: ys := by
  obtain ⟨after, whole⟩ := h
  rcases List.append_eq_append_iff.1 whole with ⟨rest, hxs, -⟩ | ⟨rest, hbefore, hys⟩
  · exact .inl ⟨rest, hxs.symm⟩
  · exact .inr ⟨rest, hbefore, after, hys.symm⟩

/-- What one attempt to connect adds to a history, by its number. -/
structure IsAttempt (k : Nat) (events : List ConnectionEvent) : Prop where
  opens : ∀ l, .opened l ∈ events → l = k
  once : ∀ l, events.count (.opened l) ≤ 1
  closes : ∀ l, events.count (.closed l) = events.count (.opened l)
  opensFirst : ∀ before, before <+: events → ∀ l, .closed l ∈ before → .opened l ∈ before
  attempts : events.countP (·.isAttempt) = 1

theorem isAttempt_refused (k : Nat) : IsAttempt k [.refused] where
  opens l h := by simp at h
  once l := by simp
  closes l := by simp
  opensFirst before h l closed := absurd (h.subset closed) (by simp)
  attempts := rfl

theorem isAttempt_visit (k n : Nat) : IsAttempt k (visit k n) where
  opens l h := by simpa [visit] using h
  once l := by
    have counted : (visit k n).count (.opened l) = if k = l then 1 else 0 := by
      simp [visit, List.count_cons, List.count_replicate]
    rw [counted]
    split <;> decide
  closes l := by simp [visit, List.count_cons, List.count_replicate]
  opensFirst before h l closed := by
    obtain rfl : l = k := by simpa [visit] using h.subset closed
    rcases List.prefix_cons_iff.1 h with rfl | ⟨rest, rfl, -⟩
    · cases closed
    · exact List.mem_cons_self
  attempts := by simp [visit, ConnectionEvent.isAttempt, List.countP_replicate]

/--
Every connection that was opened has been closed once, after it was opened, and at no moment two of
them were open.
-/
structure IsSettled (c : Connections) : Prop where
  single : ∀ before, before <+: c.history →
    ∀ k l, IsOpenAfter before k → IsOpenAfter before l → k = l
  opensFirst : ∀ before, before <+: c.history → ∀ k, .closed k ∈ before → .opened k ∈ before
  once : ∀ k, c.history.count (.opened k) ≤ 1
  closes : ∀ k, c.history.count (.closed k) = c.history.count (.opened k)
  numbered : ∀ k, .opened k ∈ c.history → k < c.attempts

theorem isSettled_empty : IsSettled {} where
  single before h k l isOpen _ := by
    rw [List.prefix_nil.1 h] at isOpen
    cases isOpen.1
  opensFirst before h k closed := by
    rw [List.prefix_nil.1 h] at closed
    cases closed
  once k := Nat.zero_le 1
  closes k := rfl
  numbered k h := by cases h

theorem IsSettled.closed_mem (h : c.IsSettled) (opened : .opened k ∈ c.history) :
    .closed k ∈ c.history := by
  rw [← List.count_pos_iff] at opened ⊢
  rw [h.closes]
  exact opened

/-- After a part of an attempt, only the connection of this attempt can be open. -/
theorem IsSettled.eq_of_isOpenAfter (h : c.IsSettled) {events recent : List ConnectionEvent}
    {l : Nat} (attempt : IsAttempt l events) (isPrefix : recent <+: events)
    (isOpen : IsOpenAfter (c.history ++ recent) k) : k = l := by
  rcases List.mem_append.1 isOpen.1 with opened | opened
  · exact absurd (List.mem_append_left recent (h.closed_mem opened)) isOpen.2
  · exact attempt.opens k (isPrefix.subset opened)

theorem IsSettled.append (h : c.IsSettled) {events : List ConnectionEvent}
    (attempt : IsAttempt c.attempts events) (history : c'.history = c.history ++ events) :
    c'.IsSettled where
  single before isPrefix k l hk hl := by
    rw [history] at isPrefix
    rcases prefix_append_cases isPrefix with old | ⟨recent, rfl, new⟩
    · exact h.single before old k l hk hl
    · rw [h.eq_of_isOpenAfter attempt new hk, h.eq_of_isOpenAfter attempt new hl]
  opensFirst before isPrefix k closed := by
    rw [history] at isPrefix
    rcases prefix_append_cases isPrefix with old | ⟨recent, rfl, new⟩
    · exact h.opensFirst before old k closed
    · rcases List.mem_append.1 closed with closed | closed
      · exact List.mem_append_left recent (h.opensFirst c.history (List.prefix_refl _) k closed)
      · exact List.mem_append_right c.history (attempt.opensFirst recent new k closed)
  once k := by
    rw [history, List.count_append]
    by_cases old : .opened k ∈ c.history
    · have unopened : events.count (.opened k) = 0 :=
        List.count_eq_zero.2 fun new => Nat.ne_of_lt (h.numbered k old) (attempt.opens k new)
      rw [unopened]
      exact h.once k
    · rw [List.count_eq_zero.2 old, Nat.zero_add]
      exact attempt.once k
  closes k := by rw [history, List.count_append, List.count_append, h.closes, attempt.closes]
  numbered k opened := by
    rw [Connections.attempts, history, List.countP_append, attempt.attempts]
    rw [history] at opened
    rcases List.mem_append.1 opened with old | new
    · exact Nat.lt_succ_of_lt (h.numbered k old)
    · exact Nat.lt_succ_of_le (Nat.le_of_eq (attempt.opens k new))

theorem Uses.isSettled (h : Uses c c') (settled : c.IsSettled) (unused : c.active = none) :
    c'.IsSettled := by
  induction h with
  | idle => exact settled
  | asked earlier inUse _ =>
    rw [earlier.active_eq, unused] at inUse
    cases inUse
  | refused _ _ ih => exact ih.append (isAttempt_refused _) rfl
  | visited _ _ n ih => exact ih.append (isAttempt_visit _ n) (history_visited _ n)

end Connections

/-! ### Sessions that use connections so -/

namespace Session

variable {α β : Type} {s : Session Connections α}

/-- However the session ends, it has used connections as they are to be used. -/
def Uses (s : Session Connections α) : Prop :=
  ∀ t : Trail Connections, t.source.Uses ((ExceptT.run s).run t).2.source

theorem uses_lift (r : Except Fault α) : (liftM r : Session Connections α).Uses :=
  fun _ => .idle

theorem uses_log {logger : Option Log.Logger} {level : Log.Level} {message : String} :
    (log logger level message : Session Connections Unit).Uses := by
  intro t
  match logger with
  | none | some .recorder | some (.mute _) => exact .idle

theorem Uses.bind {f : α → Session Connections β} (h : s.Uses) (hf : ∀ a, (f a).Uses) :
    (s >>= f).Uses := by
  intro t
  refine (h t).trans ?_
  show Connections.Uses (s t).2.source (ExceptT.bindCont f (s t).1 (s t).2).2.source
  cases (s t).1 with
  | error fault => exact .idle
  | ok a => exact hf a (s t).2

theorem Uses.attempt (h : s.Uses) : s.attempt.Uses := h

end Session

namespace Database

variable {α : Type} {d : Database} {s : Nat → Session Connections α} {t : Trail Connections}
  {k : Nat}

/-- Whether the settings are of the types that they are declared with. -/
structure IsTyped (d : Database) : Prop where
  connectable : d.isConnectable = true
  audible : ∀ v, d.logger ≠ some (.mute v)

/-- Whether a scope gets a connection: the one in use, or one of its own. -/
def isReachable (d : Database) (c : Connections) : Bool := c.active.isSome || d.accepts c.attempts

theorem accepts_eq_true {attempt : Nat} (h : d.accepts attempt = true) :
    d.refusal? attempt = none := Option.isNone_iff_eq_none.1 h

theorem accepts_eq_false {attempt : Nat} (h : d.accepts attempt = false) :
    ∃ words, d.refusal? attempt = some words :=
  Option.isSome_iff_exists.1 (by simpa [accepts] using h)

theorem closing_eq (d : Database) (k : Nat) (t : Trail Connections) :
    d.closing k t = ⟨t.source.disconnect k, (d.closing k t).log⟩ := by
  match h : d.logger with
  | none | some .recorder | some (.mute _) => simp only [closing, h]

theorem run_onConnection_of_active (inUse : t.source.active = some k) :
    (ExceptT.run (d.onConnection s)).run t = (ExceptT.run (s k)).run t := by
  rw [onConnection, Session.run_source_bind, inUse]

theorem run_onConnection_of_refused (typed : d.IsTyped) (unused : t.source.active = none)
    (refused : d.accepts t.source.attempts = false) :
    ∃ log, (ExceptT.run (d.onConnection s)).run t =
      (.error (d.unreachable t.source.attempts), ⟨t.source.refuse, log⟩) := by
  obtain ⟨words, refused⟩ := accepts_eq_false refused
  obtain ⟨u, logged⟩ := Session.exists_returns_log .error ("連接資料庫失敗: " ++ words)
    typed.audible { t with source := t.source.refuse }
  have source : u.source = t.source.refuse := Session.source_of_returns_log logged
  refine ⟨u.log, ?_⟩
  rw [onConnection, Session.run_source_bind, unused, ← source]
  simp only [typed.connectable, refused]
  rw [if_neg (by decide)]
  exact (Session.run_bind_of_returns (Session.returns_modifySource _ t)).trans
    (Session.run_bind_of_returns logged)

theorem run_onConnection_of_accepted (typed : d.IsTyped) (unused : t.source.active = none)
    (accepted : d.accepts t.source.attempts = true) :
    ∃ log log', let inside := (ExceptT.run (s t.source.attempts)).run ⟨t.source.connect, log⟩
      (ExceptT.run (d.onConnection s)).run t =
        (inside.1, ⟨inside.2.source.disconnect t.source.attempts, log'⟩) := by
  obtain ⟨u, logged⟩ := Session.exists_returns_log .debug ("開啟中繼資料連線: " ++ d.path)
    typed.audible { t with source := t.source.connect }
  have source : u.source = t.source.connect := Session.source_of_returns_log logged
  have entered : (ExceptT.run (d.onConnection s)).run t =
      (ExceptT.run ((s t.source.attempts).ensuring (d.closing t.source.attempts))).run u := by
    rw [onConnection, Session.run_source_bind, unused]
    simp only [typed.connectable, accepts_eq_true accepted]
    rw [if_neg (by decide)]
    exact (Session.run_bind_of_returns (Session.returns_modifySource _ t)).trans
      (Session.run_bind_of_returns logged)
  refine ⟨u.log, (d.closing t.source.attempts
    ((ExceptT.run (s t.source.attempts)).run u).2).log, ?_⟩
  rw [entered, ← source]
  exact congrArg (Prod.mk _) (d.closing_eq t.source.attempts _)

/-- A scope uses connections well if what runs in it does, on the connection that it is given. -/
theorem uses_onConnection (typed : d.IsTyped) (h : ∀ k (t : Trail Connections),
    t.source.active = some k → t.source.Uses ((ExceptT.run (s k)).run t).2.source) :
    (d.onConnection s).Uses := by
  intro t
  cases active : t.source.active with
  | some k =>
    rw [run_onConnection_of_active active]
    exact h k t active
  | none =>
    cases accepted : d.accepts t.source.attempts with
    | false =>
      obtain ⟨log, run⟩ := run_onConnection_of_refused (s := s) typed active accepted
      rw [run]
      exact .refused .idle active
    | true =>
      obtain ⟨log, log', run⟩ := run_onConnection_of_accepted (s := s) typed active accepted
      obtain ⟨n, asked⟩ := (h t.source.attempts ⟨t.source.connect, log⟩ rfl).eq_ask rfl
      rw [run]
      show t.source.Uses (Connections.disconnect _ _)
      rw [asked]
      exact .visited .idle active n

/-! ### Questions and clients -/

variable {q : Query} {table : Value} {answer : Nat → Answer α}

theorem exists_returns_reportQuery (typed : d.IsTyped) (q : Query) (t : Trail Connections) :
    ∃ u, (d.reportQuery q).Returns t () u := by
  rw [reportQuery]
  split
  · exact Session.exists_returns_log .debug q.report typed.audible t
  · exact ⟨t, rfl⟩

theorem source_of_returns_reportQuery {u : Trail Connections}
    (h : (d.reportQuery q).Returns t () u) : u.source = t.source := by
  rw [reportQuery] at h
  split at h
  · exact Session.source_of_returns_log h
  · cases h
    rfl

theorem run_query (typed : d.IsTyped) (q : Query) (answer : Nat → Answer α) (connection : Nat)
    (t : Trail Connections) :
    ∃ log, (ExceptT.run (d.query q answer connection)).run t =
      (.ok (answer t.source.queries), ⟨t.source.query connection, log⟩) := by
  obtain ⟨u, reported⟩ := exists_returns_reportQuery typed q t
  refine ⟨u.log, ?_⟩
  rw [query, ← source_of_returns_reportQuery reported]
  exact Session.run_bind_of_returns reported

theorem uses_ask (typed : d.IsTyped) : (d.ask q answer).Uses := by
  refine Session.Uses.bind (s := d.onConnection (d.query q answer)) ?_ fun found => ?_
  · refine uses_onConnection typed fun k t inUse => ?_
    obtain ⟨log, run⟩ := run_query typed q answer k t
    rw [run]
    exact .asked .idle inUse
  · cases found with
    | ok rows => exact Session.uses_lift (.ok rows)
    | error words => exact Session.uses_log.bind fun _ => Session.uses_lift (.error _)

theorem uses_askNames (typed : d.IsTyped) {answer : Nat → Answer String} :
    (d.askNames q answer).Uses :=
  (uses_ask typed).bind fun _ => Session.uses_lift (.ok _)

theorem uses_foreignKeyNames (typed : d.IsTyped) {column : Value} :
    (d.foreignKeyNames table column).Uses := by
  rw [foreignKeyNames]
  split <;> exact uses_askNames typed

theorem uses_defaultNames (typed : d.IsTyped) {column : Value} :
    (d.defaultNames table column).Uses := by
  rw [defaultNames]
  split
  · exact Session.uses_lift (.ok [])
  · exact uses_askNames typed

theorem uses_indexesAbout (typed : d.IsTyped) {column : Value} :
    (d.indexesAbout table column).Uses :=
  (uses_ask typed).bind fun rows =>
    (Session.uses_lift (d.rowsAbout column rows)).bind fun _ => Session.uses_lift (.ok _)

theorem onConnection_query (typed : d.IsTyped) (q : Query) (answer : Nat → Answer α)
    (t : Trail Connections) :
    ((ExceptT.run (d.onConnection (d.query q answer))).run t).1 =
      if d.isReachable t.source then .ok (answer t.source.queries)
      else .error (d.unreachable t.source.attempts) := by
  cases active : t.source.active with
  | some k =>
    obtain ⟨log, run⟩ := run_query typed q answer k t
    rw [run_onConnection_of_active active, isReachable, active, run]
    rfl
  | none =>
    cases accepted : d.accepts t.source.attempts with
    | false =>
      obtain ⟨log, run⟩ :=
        run_onConnection_of_refused (s := d.query q answer) typed active accepted
      rw [run, isReachable, active, accepted]
      rfl
    | true =>
      obtain ⟨log, log', run⟩ :=
        run_onConnection_of_accepted (s := d.query q answer) typed active accepted
      obtain ⟨log'', asked⟩ :=
        run_query typed q answer t.source.attempts ⟨t.source.connect, log⟩
      rw [run, isReachable, active, accepted, asked, Connections.queries_connect]
      rfl

theorem returns_onConnection_query (typed : d.IsTyped) (q : Query) (answer : Nat → Answer α)
    (reached : d.isReachable t.source = true) :
    (d.onConnection (d.query q answer)).Returns t (answer t.source.queries)
      ((ExceptT.run (d.onConnection (d.query q answer))).run t).2 :=
  Prod.ext ((onConnection_query typed q answer t).trans (if_pos reached)) rfl

/-- The fault of a query, if it has one: that of its lookup, or that there is no connection. -/
def queryFault? (d : Database) (lookup : Lookup) (table : Value) (failure? : Option String)
    (c : Connections) : Option Fault :=
  if d.isReachable c then failure?.map fun words => .metadata lookup.name table (some words)
  else some (d.unreachable c.attempts)

theorem fault?_ask (typed : d.IsTyped) :
    fault? ((ExceptT.run (d.ask q answer)).run t).1 =
      d.queryFault? q.lookup q.table (answer t.source.queries).failure? t.source := by
  rw [queryFault?]
  split
  · next reached =>
    have returned := returns_onConnection_query typed q answer reached
    refine (congrArg (fault? ·.1) (Session.run_bind_of_returns returned)).trans ?_
    cases answer t.source.queries with
    | ok rows => rfl
    | error words =>
      obtain ⟨u, logged⟩ := Session.exists_returns_log .error (q.failureReport words)
        typed.audible ((ExceptT.run (d.onConnection (d.query q answer))).run t).2
      exact congrArg (fault? ·.1) (Session.run_bind_of_returns logged)
  · next missed =>
    have raised : (d.onConnection (d.query q answer)).Raises t
        (d.unreachable t.source.attempts)
        ((ExceptT.run (d.onConnection (d.query q answer))).run t).2 :=
      Prod.ext ((onConnection_query typed q answer t).trans (if_neg missed)) rfl
    exact congrArg (fault? ·.1) (Session.raises_bind_of_raises raised)

end Database

/-- The fault of a question to a database, if it has one. -/
def Question.refusal? (d : Database) (q : Question) (c : Connections) : Option Fault :=
  if q.isAsked d then d.queryFault? q.lookup q.table (q.failure? d c.queries) c else none

theorem Question.fault?_ask {d : Database} (typed : d.IsTyped) (q : Question)
    (t : Trail Connections) :
    fault? ((ExceptT.run (q.ask d.provider)).run t).1 = q.refusal? d t.source := by
  have names (q : Query) (answer : Nat → Answer String) :
      fault? ((ExceptT.run (d.askNames q answer)).run t).1 =
        d.queryFault? q.lookup q.table (answer t.source.queries).failure? t.source :=
    (Session.fault?_bind fun _ _ => rfl).trans (Database.fault?_ask typed)
  cases q with
  | foreignKeys table column => cases column <;> exact names _ _
  | defaults table column =>
    show fault? ((ExceptT.run (d.defaultNames table column)).run t).1 = _
    rw [Database.defaultNames, refusal?, isAsked, failure?]
    cases d.queries.defaults? with
    | none => rfl
    | some sql => exact names _ _
  | indexes table column =>
    exact (Session.fault?_bind fun _ _ => rfl).trans (Database.fault?_ask typed)

theorem Question.uses_ask {d : Database} (typed : d.IsTyped) (q : Question) :
    (q.ask d.provider).Uses := by
  cases q with
  | foreignKeys table column => exact Database.uses_foreignKeyNames typed
  | defaults table column => exact Database.uses_defaultNames typed
  | indexes table column => exact Database.uses_indexesAbout typed

/-- What a client does uses the connections of a database as they are to be used. -/
theorem Client.uses {α : Type} {d : Database} (typed : d.IsTyped) (client : Client α) :
    (client.session d.provider).Uses := by
  induction client with
  | leave result => exact Session.uses_lift result
  | lookUp q next ih => exact (q.uses_ask typed).attempt.bind fun found => ih found
  | scope body next inner ih =>
    -- What is known of the body holds on whatever connection the scope gives it.
    refine Session.Uses.bind (Session.Uses.attempt ?_) fun left => ih left
    exact Database.uses_onConnection typed fun _ t _ => inner t

/-! ### The discipline of scopes -/

namespace Database

/-- What a scope of its own leaves behind: one visit to the database, or a refusal. -/
structure Visits (d : Database) (c c' : Connections) : Prop where
  idle : c'.active = none
  accepted : d.accepts c.attempts = true →
    ∃ n, c'.history = c.history ++ Connections.visit c.attempts n
  refused : d.accepts c.attempts = false → c'.history = c.history ++ [.refused]

variable {α : Type} {d : Database} {s : Nat → Session Connections α} {t : Trail Connections}

theorem visits_onConnection (typed : d.IsTyped) (unused : t.source.active = none)
    (h : ∀ k, (s k).Uses) :
    d.Visits t.source ((ExceptT.run (d.onConnection s)).run t).2.source := by
  refine ⟨?_, fun accepted => ?_, fun refused => ?_⟩
  · have kept := (uses_onConnection typed fun k t _ => h k t : (d.onConnection s).Uses) t
    rw [kept.active_eq, unused]
  · obtain ⟨log, log', run⟩ := run_onConnection_of_accepted (s := s) typed unused accepted
    obtain ⟨n, asked⟩ := (h t.source.attempts ⟨t.source.connect, log⟩).eq_ask rfl
    refine ⟨n, ?_⟩
    rw [run, ← Connections.history_visited, ← asked]
  · obtain ⟨log, run⟩ := run_onConnection_of_refused (s := s) typed unused refused
    rw [run]
    rfl

theorem visits_lookUpDependencies (typed : d.IsTyped) (unused : t.source.active = none)
    (table column : Value) : d.Visits t.source
      ((ExceptT.run (Composer.lookUpDependencies d.provider table column)).run t).2.source :=
  visits_onConnection typed unused fun _ => (uses_foreignKeyNames typed).bind fun _ =>
    (uses_defaultNames typed).bind fun _ => (uses_indexesAbout typed).bind fun _ =>
      Session.uses_lift (.ok _)

/-- How scopes of a database behave. -/
structure ScopeDiscipline (d : Database) : Prop where
  /-- A client that starts anew leaves no connection in use, and each that it opened is closed. -/
  settles : ∀ {α : Type} (client : Client α),
    let c := ((client.session d.provider).start {}).2.source
    c.active = none ∧ c.IsSettled
  /-- A scope inside another one gets the connection of the outer one, on which it only asks. -/
  nested : ∀ {α : Type} (s : Nat → Session Connections α) (body : Client α) (t : Trail Connections)
    (k : Nat), t.source.active = some k →
    (ExceptT.run (d.onConnection s)).run t = (ExceptT.run (s k)).run t ∧
    ∃ n, ((ExceptT.run (d.provider.within (body.session d.provider))).run t).2.source =
      Connections.ask k n t.source
  /-- A scope of its own visits the database once, or is refused. -/
  visits : ∀ {α : Type} (body : Client α) (t : Trail Connections), t.source.active = none →
    d.Visits t.source
      ((ExceptT.run (d.provider.within (body.session d.provider))).run t).2.source
  /-- A scope of its own ends as what runs inside it does, unless it is refused. -/
  ends : ∀ {α : Type} (body : Client α) (t : Trail Connections), t.source.active = none →
    ∃ log, ((ExceptT.run (d.provider.within (body.session d.provider))).run t).1 =
      if d.accepts t.source.attempts then
        ((ExceptT.run (body.session d.provider)).run ⟨t.source.connect, log⟩).1
      else .error (d.unreachable t.source.attempts)
  /-- A question fails as its lookup, or because there is no connection. -/
  questions : ∀ (q : Question) (t : Trail Connections),
    fault? ((ExceptT.run (q.ask d.provider)).run t).1 = q.refusal? d t.source
  /-- The drops of what depends on a column visit the database once, or are refused. -/
  drops : ∀ (b : Composer) (table column : Value) (t : Trail Connections),
    t.source.active = none →
    d.Visits t.source
      ((ExceptT.run (b.dropDependencies d.provider table column)).run t).2.source ∧
    (d.accepts t.source.attempts = false →
      ((ExceptT.run (b.dropDependencies d.provider table column)).run t).1 =
        .error (d.unreachable t.source.attempts))

/--
Where path, mode and logger are what the settings say, the scopes of a database are disciplined: at
most one connection is open at any moment, the scope that opened it closes it, and faults pass
through scopes as they are.
-/
theorem scopeDiscipline (d : Database) (typed : d.IsTyped) : d.ScopeDiscipline where
  settles client := by
    have used := client.uses typed { source := {} }
    exact ⟨used.active_eq, used.isSettled Connections.isSettled_empty rfl⟩
  nested s body t k inUse := by
    refine ⟨run_onConnection_of_active inUse, ?_⟩
    exact (uses_onConnection typed (fun _ t _ => body.uses typed t) t).eq_ask inUse
  visits body t unused := visits_onConnection typed unused fun _ => body.uses typed
  ends body t unused := by
    cases accepted : d.accepts t.source.attempts with
    | false =>
      obtain ⟨log, run⟩ := run_onConnection_of_refused
        (s := fun _ => body.session d.provider) typed unused accepted
      exact ⟨log, congrArg Prod.fst run⟩
    | true =>
      obtain ⟨log, log', run⟩ := run_onConnection_of_accepted
        (s := fun _ => body.session d.provider) typed unused accepted
      have ended := congrArg Prod.fst run
      exact ⟨log, ended⟩
  questions q t := q.fault?_ask typed t
  drops b table column t unused := by
    rw [Composer.dropDependencies_eq]
    constructor
    · rw [Bond.source_bind_of_still fun found =>
        Composer.alike_reportDrops (b.twins_still Connections) found]
      exact visits_lookUpDependencies typed unused table column
    · intro refused
      obtain ⟨log, run⟩ := run_onConnection_of_refused (s := fun _ => _) typed unused refused
      exact congrArg Prod.fst (Session.raises_bind_of_raises run)

/-- A database whose second query fails, and to which there is only one connection. -/
def ordersFile : Database where
  path := "orders.duckdb"
  refusal? n := if n == 0 then none else some "IO Error: the file is locked"
  columnForeignKeys n := if n == 1 then .error "Catalog Error" else .ok ["FK_ORDERS_CUSTOMER"]
  indexes n := if n == 1 then .error "Catalog Error" else .ok []

/-- Asks about a column inside a scope, and once more after the scope was left with a fault. -/
def twice : Client Unit :=
  .scope (.lookUp (.foreignKeys "ORDERS" "CUSTOMER_ID") fun _ =>
    .lookUp (.indexes "ORDERS" "CUSTOMER_ID") fun found => .leave (found.map fun _ => ()))
  fun _ => .lookUp (.indexes "ORDERS" "CUSTOMER_ID") fun found => .leave (found.map fun _ => ())

theorem scopeDiscipline_ordersFile :
    ordersFile.IsTyped ∧ ordersFile.ScopeDiscipline ∧
      ((twice.session ordersFile.provider).start {}).2.source.history =
        [.opened 0, .asked 0, .asked 0, .closed 0, .refused] := by
  have typed : ordersFile.IsTyped := ⟨rfl, fun v h => by cases h⟩
  exact ⟨typed, ordersFile.scopeDiscipline typed, by decide +kernel⟩

end Database

end SchemaDrift
