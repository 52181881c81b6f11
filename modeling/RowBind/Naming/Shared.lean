import RowBind.Route

/-!
# Sharing a naming

Readers share a naming, and any of them may ask it at any time.  Who asks looks for the type
first, and others may be looking at the same time.  A type that is not there has to be named,
and for this a caller waits until the naming is left to it alone.  Then it looks again, because
somebody else may have named the type in the meantime.

A look and a turn alone are one step each.  So every order in which callers can come and go is
a list of acts: somebody asks, or one of those who wait is let in.

Tables are made one after another and none is given up, so the place where a table is kept
tells which one it is, also among equal ones.

Main statements: `serve_cases`, what it comes to that a caller is served; and `run_inTurn`,
callers who do not meet get what the naming replies to one after the other.
-/

namespace RowBind

/-- What a naming is asked for. -/
inductive NamingRequest where
  /-- The table of a type. -/
  | table (key : TypeKey)
  /-- The routes of the named columns into a type. -/
  | routes (key : TypeKey) (columns : List String)
deriving DecidableEq, Repr

/-- What a naming replies. -/
inductive NamingReply where
  | table (table : NameTable)
  | routes (routes : Routes)
deriving DecidableEq, Repr

namespace NamingRequest

/-- The type that is asked about. -/
def key : NamingRequest → TypeKey
  | table key | routes key _ => key

/-- The reply, read from the table of the type. -/
def readFrom (table : NameTable) : NamingRequest → NamingReply
  | .table _ => .table table
  | .routes _ columns => .routes (columns.map fun column => (table.find? column).map (·.slot))

end NamingRequest

namespace Naming

/-- The reply to a request, with the naming that remembers the type. -/
def reply (naming : Naming) : NamingRequest → NamingReply × Naming × Log
  | .table key =>
    let (table, naming, log) := naming.table key
    (.table table, naming, log)
  | .routes key columns =>
    let (routes, naming, log) := naming.routes key columns
    (.routes routes, naming, log)

/-- The place where the table of a type is kept, or where it will be put. -/
def place (naming : Naming) (key : TypeKey) : Nat :=
  naming.tables.findIdx (·.1 == key)

/-- The note about a table that was made. -/
def madeNote : TypeKey × NameTable → LogEntry
  | (key, table) => ⟨.debug, s!"Mapped {table.length} columns for type {key.name}"⟩

theorem reply_eq (naming : Naming) (request : NamingRequest) :
    naming.reply request =
      (request.readFrom (naming.table request.key).1, (naming.table request.key).2) := by
  cases request <;> rfl

/-- A reply is read from the table of the layout, whatever was named before. -/
theorem reply_fst (naming : Naming) (request : NamingRequest) :
    (naming.reply request).1 =
      request.readFrom (NameTable.ofLayout naming.rule request.key.layout) := by
  rw [reply_eq, table_fst]

/-- The table of a type is found at its place. -/
theorem getElem?_place {naming : Naming} {key : TypeKey} {table : NameTable}
    (h : naming.remembered? key = some table) :
    naming.tables[naming.place key]? = some (key, table) := by
  obtain ⟨entry, hfind, rfl⟩ := Option.map_eq_some_iff.mp h
  have hkey : entry.1 = key := by simpa using List.find?_some hfind
  rw [place, ← List.find?_eq_getElem?_findIdx, hfind, ← hkey]

/-- A type that is not remembered was not named. -/
theorem not_mem_of_not_remembered {naming : Naming} {key : TypeKey}
    (h : naming.remembered? key = none) : key ∉ naming.tables.map (·.1) := by
  rw [remembered?, Option.map_eq_none_iff, List.find?_eq_none] at h
  simpa [List.mem_map] using fun table hmem => h (key, table) hmem

/-- The table of a type that was not named is put behind the others. -/
theorem place_of_not_remembered {naming : Naming} {key : TypeKey}
    (h : naming.remembered? key = none) : naming.place key = naming.tables.length := by
  rw [remembered?, Option.map_eq_none_iff, List.find?_eq_none] at h
  exact List.findIdx_eq_length.mpr fun entry hmem => by simpa using h entry hmem

end Naming

/-- What a caller got. -/
structure NamingAnswer where
  request : NamingRequest
  /-- The place of the table that was used. -/
  place : Nat
  reply : NamingReply
deriving DecidableEq, Repr

/-- What can happen at a shared naming. -/
inductive NamingAct where
  /-- Somebody asks, and looks for the type. -/
  | ask (request : NamingRequest)
  /-- One of those who wait has the naming for itself. -/
  | letIn (waiter : Nat)

/-- The request that comes with an act. -/
def NamingAct.asked? : NamingAct → Option NamingRequest
  | ask request => some request
  | letIn _ => none

/-- A naming with those who share it. -/
structure SharedNaming where
  naming : Naming
  /-- The requests of callers who did not find their type. -/
  waiting : List NamingRequest := []
  answers : List NamingAnswer := []
  log : Log := []

namespace SharedNaming

/-- A caller gets its reply. -/
def serve (shared : SharedNaming) (request : NamingRequest) : SharedNaming :=
  let (reply, naming, log) := shared.naming.reply request
  { shared with
    naming
    answers := shared.answers ++ [⟨request, shared.naming.place request.key, reply⟩]
    log := shared.log ++ log }

/-- The naming and its callers after an act.  Nobody is let in where nobody waits. -/
def step (shared : SharedNaming) : NamingAct → SharedNaming
  | .ask request =>
    if (shared.naming.remembered? request.key).isSome then shared.serve request
    else { shared with waiting := shared.waiting ++ [request] }
  | .letIn waiter =>
    match shared.waiting[waiter]? with
    | some request => { shared with waiting := shared.waiting.eraseIdx waiter }.serve request
    | none => shared

/-- The naming and its callers after some acts. -/
def run (shared : SharedNaming) (acts : List NamingAct) : SharedNaming :=
  acts.foldl step shared

/-- A caller is served from the table that is kept, and nothing else changes; or nobody named
the type, and the table is made. -/
theorem serve_cases (shared : SharedNaming) (request : NamingRequest) :
    (∃ table, shared.naming.remembered? request.key = some table ∧
      shared.serve request =
        { shared with
          answers := shared.answers ++
            [⟨request, shared.naming.place request.key, request.readFrom table⟩] }) ∨
    shared.naming.remembered? request.key = none ∧
      ∃ table, table = NameTable.ofLayout shared.naming.rule request.key.layout ∧
        shared.serve request =
          { shared with
            naming := shared.naming.remember request.key
            answers := shared.answers ++
              [⟨request, shared.naming.tables.length, request.readFrom table⟩]
            log := shared.log ++ [Naming.madeNote (request.key, table)] } := by
  cases h : shared.naming.remembered? request.key with
  | some table =>
      refine .inl ⟨table, rfl, ?_⟩
      simp [serve, Naming.reply_eq, Naming.table, h]
  | none =>
      refine .inr ⟨rfl, _, rfl, ?_⟩
      simp [serve, Naming.reply_eq, Naming.table, h, Naming.place_of_not_remembered h,
        Naming.madeNote]

theorem serve_waiting (shared : SharedNaming) (request : NamingRequest) :
    (shared.serve request).waiting = shared.waiting := rfl

/-- A caller whom nobody comes before is served as if it had the naming for itself. -/
theorem ask_letIn (shared : SharedNaming) (request : NamingRequest) :
    (shared.step (.ask request)).step (.letIn shared.waiting.length) = shared.serve request := by
  rw [step]
  split
  · simp [step, serve_waiting]
  · simp [step, List.eraseIdx_append_of_length_le]

/-- **Callers who do not meet** are served one after the other. -/
theorem run_inTurn (shared : SharedNaming) (requests : List NamingRequest) :
    shared.run (requests.flatMap fun request => [.ask request, .letIn shared.waiting.length]) =
      requests.foldl serve shared := by
  generalize hlength : shared.waiting.length = place
  induction requests generalizing shared with
  | nil => rfl
  | cons request requests ih =>
      have hcaller := hlength ▸ shared.ask_letIn request
      rw [List.flatMap_cons, run, List.foldl_append, List.foldl_cons, List.foldl_cons,
        List.foldl_nil, hcaller]
      exact ih (shared.serve request) hlength

end SharedNaming

end RowBind
