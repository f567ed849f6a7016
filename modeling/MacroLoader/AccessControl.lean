import MacroLoader.PythonValues

/-!
# Owners and privileges of a database

Every schema and every relation of a database has an owner and a list of grants. What a
role may do with it is what is granted to everyone, to the role itself, or to a role whose
privileges it has. An owner is no exception to that: it begins with all privileges, but it
can take them from itself. What it does not lose is the right to grant and to revoke.

A new object belongs to the role that makes it. Its grants are the default ones of that
role, which may have been changed for all schemas, and may have been extended for one.

`execute` says what a statement does to owners and grants, and when it is denied. A server
may fail for other reasons, too, and at any statement.
-/

namespace AccessControl

/-- What can be granted on relations, and on schemas. -/
inductive Privilege
  | select | insert | update | delete | truncate | references | trigger | maintain
  | usage | create
  deriving DecidableEq, Repr

/-- `ALL PRIVILEGES` of a relation. -/
def tablePrivileges : List Privilege :=
  [.select, .insert, .update, .delete, .truncate, .references, .trigger, .maintain]

/-- `ALL PRIVILEGES` of a schema. -/
def schemaPrivileges : List Privilege := [.usage, .create]

/-- Who a privilege is granted to: a role, or `PUBLIC`. -/
inductive Grantee (Role : Type)
  | role (r : Role)
  | everyone
  deriving DecidableEq, Repr

/-- **A grant**, with the role that made it, and whether it may be passed on. -/
structure AclItem (Role : Type) where
  grantee : Grantee Role
  privilege : Privilege
  grantor : Role
  grantable : Bool
  deriving DecidableEq, Repr

/-- The owner and the grants of an object. -/
structure Entry (Role : Type) where
  owner : Role
  acl : List (AclItem Role)
  deriving DecidableEq, Repr

/-- The default grants of a role on new relations or new schemas: those it has set for all
schemas in place of the usual ones, or those it has added for one schema. -/
structure DefaultAcl (Role Schema : Type) where
  creator : Role
  schema : Option Schema
  onSchemas : Bool
  acl : List (AclItem Role)

/-- **The schemas and relations of a database**, and the default grants. -/
structure Catalog (Role Schema Relation : Type) where
  schemas : List (Schema × Entry Role)
  relations : List (Relation × Entry Role)
  defaults : List (DefaultAcl Role Schema)

/-- The roles of a server. A role has the privileges of itself, and those of roles that it is
a member of. Some roles have a privilege on everything. -/
structure Roles (Role : Type) where
  superuser : Role → Bool
  inherits : Role → Role → Bool
  everywhere : Role → Privilege → Bool

/-- Why a statement fails. -/
inductive Failure
  | undefinedObject | duplicateObject | insufficientPrivilege
  | other (message : String)
  deriving DecidableEq, Repr

/-- **Statements**, by what they mean for owners and grants. -/
inductive Statement (Role Schema Relation : Type)
  /-- `CREATE SCHEMA [IF NOT EXISTS] s [AUTHORIZATION owner]` -/
  | createSchema (ifNotExists : Bool) (s : Schema) (owner : Option Role)
  /-- `DROP SCHEMA IF EXISTS s CASCADE` -/
  | dropSchema (s : Schema)
  | alterSchemaOwner (s : Schema) (owner : Role)
  | grantOnSchema (privileges : List Privilege) (s : Schema) (grantees : List (Grantee Role))
  | revokeOnSchema (privileges : List Privilege) (s : Schema) (grantees : List (Grantee Role))
  /-- `CREATE TABLE` or `CREATE MATERIALIZED VIEW`, with `IF NOT EXISTS`. A view is filled
  from its sources. -/
  | create (t : Relation) (sources : List Relation)
  | drop (ifExists : Bool) (t : Relation)
  /-- A statement about a relation that is for its owner only. -/
  | alter (t : Relation)
  | rename (t t' : Relation)
  /-- Rename a relation if it exists, over another one. -/
  | renameOver (t t' : Relation)
  | alterOwner (t : Relation) (owner : Role)
  | grant (privileges : List Privilege) (t : Relation) (grantees : List (Grantee Role))
  | revoke (privileges : List Privilege) (t : Relation) (grantees : List (Grantee Role))
  /-- `REVOKE ALL ON ALL TABLES IN SCHEMA s` -/
  | revokeAllIn (s : Schema) (grantees : List (Grantee Role))
  /-- A statement that takes privileges on a relation, and reads others. -/
  | use (privileges : List Privilege) (t : Relation) (sources : List Relation)
  | setRole (r : Role)
  | resetRole
  /-- Any statement that is not about schemas or relations, or changes nothing of them. -/
  | plain (text : String)

/-- **A session**: the database, the role it acts as and the one it logged in as, and the
statements it has executed, the last one first. -/
structure Session (Role Schema Relation : Type) where
  catalog : Catalog Role Schema Relation
  current : Role
  login : Role
  history : List (Statement Role Schema Relation)

/-- **A server**: its roles, the schemas that relations are in, and when it fails for a
reason of its own. -/
structure Server (Role Schema Relation : Type) where
  roles : Roles Role
  schemaOf : Relation → Schema
  fails : List (Statement Role Schema Relation) → Statement Role Schema Relation → Option Failure

section Privileges

variable {Role : Type} [DecidableEq Role] (roles : Roles Role)

/-- Whether a role has the privileges of another. -/
def Roles.has (r r' : Role) : Bool := decide (r = r') || roles.inherits r r'

/-- Whether a grant is one to a role. -/
def Grantee.covers (grantee : Grantee Role) (r : Role) : Bool :=
  match grantee with
  | .role r' => roles.has r r'
  | .everyone => true

/-- **Whether a role has a privilege** on an object. -/
def Entry.allows (entry : Entry Role) (r : Role) (p : Privilege) : Bool :=
  roles.superuser r || roles.everywhere r p
    || entry.acl.any (fun i => decide (i.privilege = p) && i.grantee.covers roles r)

/-- Whether everyone has a privilege on an object. -/
def Entry.allowsEveryone (entry : Entry Role) (p : Privilege) : Bool :=
  entry.acl.any (fun i => decide (i.privilege = p) && decide (i.grantee = .everyone))

/-- Whether a role is an owner of an object. -/
def Entry.ownedBy (entry : Entry Role) (r : Role) : Bool :=
  roles.superuser r || roles.has r entry.owner

/-- The role that grants and revokes in the name of a role. -/
def Entry.grantorOf (entry : Entry Role) (r : Role) : Role :=
  if entry.ownedBy roles r then entry.owner else r

/-- Whether a role may grant a privilege on an object. -/
def Entry.mayGrant (entry : Entry Role) (r : Role) (p : Privilege) : Bool :=
  entry.ownedBy roles r
    || entry.acl.any (fun i => decide (i.privilege = p) && i.grantable && i.grantee.covers roles r)

/-- `GRANT`, of the privileges that the role may grant. -/
def Entry.grant (entry : Entry Role) (r : Role) (ps : List Privilege)
    (grantees : List (Grantee Role)) : Entry Role :=
  { entry with
    acl := entry.acl ++ grantees.flatMap (fun grantee =>
      (ps.filter (entry.mayGrant roles r)).map (fun p =>
        ⟨grantee, p, entry.grantorOf roles r, false⟩)) }

/-- `REVOKE`, of the grants that were made in the name of the role. -/
def Entry.revoke (entry : Entry Role) (r : Role) (ps : List Privilege)
    (grantees : List (Grantee Role)) : Entry Role :=
  { entry with
    acl := entry.acl.filter (fun i => !(decide (i.privilege ∈ ps) && decide (i.grantee ∈ grantees)
      && decide (i.grantor = entry.grantorOf roles r))) }

/-- `OWNER TO`: the grants to and by the old owner become those of the new one. -/
def Entry.changeOwner (entry : Entry Role) (owner : Role) : Entry Role where
  owner := owner
  acl := entry.acl.map (fun i =>
    { i with
      grantee := if i.grantee = .role entry.owner then .role owner else i.grantee
      grantor := if i.grantor = entry.owner then owner else i.grantor })

/-- The grants that an owner begins with. -/
def ownerAcl (owner : Role) (ps : List Privilege) : List (AclItem Role) :=
  ps.map (fun p => ⟨.role owner, p, owner, false⟩)

variable {roles} in
/-- **A grant takes nothing away.** -/
theorem Entry.allows_grant {entry : Entry Role} {r r' : Role} {p : Privilege} (ps : List Privilege)
    (grantees : List (Grantee Role)) (h : entry.allows roles r p = true) :
    (entry.grant roles r' ps grantees).allows roles r p = true := by
  unfold Entry.allows Entry.grant at *
  rw [List.any_append]
  simp only [Bool.or_eq_true] at h ⊢
  exact h.imp_right Or.inl

end Privileges

section Execution

variable {Role Schema Relation : Type} [DecidableEq Role] [DecidableEq Schema] [DecidableEq Relation]

/-- Change the entry of a name. -/
def modify {κ : Type} [DecidableEq κ] (k : κ) (f : Entry Role → Entry Role)
    (entries : List (κ × Entry Role)) : List (κ × Entry Role) :=
  entries.map (fun e => (e.1, if e.1 = k then f e.2 else e.2))

/-- Leave out the entry of a name. -/
def remove {κ : Type} [DecidableEq κ] (k : κ) (entries : List (κ × Entry Role)) :
    List (κ × Entry Role) :=
  entries.filter (fun e => decide (e.1 ≠ k))

omit [DecidableEq Role] in
theorem lookup_modify {κ : Type} [DecidableEq κ] (k k' : κ) (f : Entry Role → Entry Role)
    (entries : List (κ × Entry Role)) : (modify k f entries).lookup k'
      = (entries.lookup k').map (fun entry => if k' = k then f entry else entry) := by
  induction entries with
  | nil => rfl
  | cons e rest ih =>
    obtain ⟨key, entry⟩ := e
    rw [modify, List.map_cons, ← modify, List.lookup_cons, List.lookup_cons, ih]
    by_cases hkey : k' = key
    · subst hkey
      simp
    · simp [beq_eq_false_iff_ne.mpr hkey]

namespace Catalog

/-- The grants on a new object of a role: the usual ones or those set in their place, and
those added for the schema. -/
def defaultAcl (db : Catalog Role Schema Relation) (creator : Role) (onSchemas : Bool)
    (s : Option Schema) : List (AclItem Role) :=
  let set (s : Option Schema) := db.defaults.find? (fun d =>
    decide (d.creator = creator) && d.onSchemas == onSchemas && decide (d.schema = s))
  (((set none).map DefaultAcl.acl).getD
      (ownerAcl creator (if onSchemas then schemaPrivileges else tablePrivileges)))
    ++ if s.isSome then ((set s).map DefaultAcl.acl).getD [] else []

/-- A database with one more schema. -/
def addSchema (db : Catalog Role Schema Relation) (s : Schema) (owner : Role) :
    Catalog Role Schema Relation :=
  { db with schemas := (s, ⟨owner, db.defaultAcl owner true none⟩) :: db.schemas }

/-- A database with one more relation. -/
def addRelation (db : Catalog Role Schema Relation) (s : Schema) (t : Relation) (owner : Role) :
    Catalog Role Schema Relation :=
  { db with relations := (t, ⟨owner, db.defaultAcl owner false (some s)⟩) :: db.relations }

/-- A database without a schema, the relations in it, and its default grants. -/
def dropSchema (schemaOf : Relation → Schema) (db : Catalog Role Schema Relation) (s : Schema) :
    Catalog Role Schema Relation where
  schemas := remove s db.schemas
  relations := db.relations.filter (fun e => decide (schemaOf e.1 ≠ s))
  defaults := db.defaults.filter (fun d => decide (d.schema ≠ some s))

/-- A database with the entry of a relation changed. -/
def modifyRelation (db : Catalog Role Schema Relation) (t : Relation)
    (f : Entry Role → Entry Role) : Catalog Role Schema Relation :=
  { db with relations := modify t f db.relations }

/-- A database with the entry of a schema changed. -/
def modifySchema (db : Catalog Role Schema Relation) (s : Schema)
    (f : Entry Role → Entry Role) : Catalog Role Schema Relation :=
  { db with schemas := modify s f db.schemas }

/-- A database with a relation under another name, in place of the one that had it. -/
def renameRelation (db : Catalog Role Schema Relation) (t t' : Relation) :
    Catalog Role Schema Relation :=
  { db with
    relations := (remove t' db.relations).map (fun e => if e.1 = t then (t', e.2) else e) }

/-- `has_table_privilege(role, table, privilege)`, unless there is no such table. -/
def hasTablePrivilege (roles : Roles Role) (db : Catalog Role Schema Relation) (r : Role)
    (t : Relation) (p : Privilege) : Option Bool :=
  (db.relations.lookup t).map (fun entry => entry.allows roles r p)

end Catalog

/-- Something that has to be there. -/
def present {α : Type} (x : Option α) : Except Failure α :=
  match x with
  | some a => .ok a
  | none => .error .undefinedObject

/-- Something that has to be allowed. -/
def permit (b : Bool) : Except Failure Unit :=
  if b = true then .ok () else .error .insufficientPrivilege

variable (server : Server Role Schema Relation)

namespace Session

/-- The entry of a schema. -/
def schema (session : Session Role Schema Relation) (s : Schema) : Except Failure (Entry Role) :=
  present (session.catalog.schemas.lookup s)

/-- The entry of a relation that is looked up: its schema has to be one that may be used. -/
def relation (session : Session Role Schema Relation) (t : Relation) :
    Except Failure (Entry Role) := do
  let s ← session.schema (server.schemaOf t)
  permit (s.allows server.roles session.current .usage)
  present (session.catalog.relations.lookup t)

/-- The entry of a relation that has to belong to the current role. -/
def owned (session : Session Role Schema Relation) (t : Relation) : Except Failure (Entry Role) := do
  let entry ← session.relation server t
  permit (entry.ownedBy server.roles session.current)
  return entry

/-- Some privileges on a relation that the current role has to have. -/
def holding (session : Session Role Schema Relation) (ps : List Privilege) (t : Relation) :
    Except Failure Unit := do
  let entry ← session.relation server t
  permit (ps.all (fun p => entry.allows server.roles session.current p))

/-- Whether there is a relation. -/
def hasRelation (session : Session Role Schema Relation) (t : Relation) : Bool :=
  (session.catalog.relations.lookup t).isSome

end Session

/-- What a statement makes of a database. -/
def effect (session : Session Role Schema Relation) :
    Statement Role Schema Relation → Except Failure (Catalog Role Schema Relation)
  | .createSchema ifNotExists s owner =>
    if (session.catalog.schemas.lookup s).isSome then
      if ifNotExists then .ok session.catalog else .error .duplicateObject
    else .ok (session.catalog.addSchema s (owner.getD session.current))
  | .dropSchema s =>
    match session.catalog.schemas.lookup s with
    | none => .ok session.catalog
    | some entry => do
      permit (entry.ownedBy server.roles session.current)
      return session.catalog.dropSchema server.schemaOf s
  | .alterSchemaOwner s owner => do
    let entry ← session.schema s
    permit (entry.ownedBy server.roles session.current)
    return session.catalog.modifySchema s (fun entry => entry.changeOwner owner)
  | .grantOnSchema ps s grantees => do
    let _ ← session.schema s
    return session.catalog.modifySchema s
      (fun entry => entry.grant server.roles session.current ps grantees)
  | .revokeOnSchema ps s grantees => do
    let _ ← session.schema s
    return session.catalog.modifySchema s
      (fun entry => entry.revoke server.roles session.current ps grantees)
  | .create t sources => do
    let s ← session.schema (server.schemaOf t)
    permit (s.allows server.roles session.current .create)
    if session.hasRelation t then return session.catalog
    else do
      sources.forM (session.holding server [.select])
      return session.catalog.addRelation (server.schemaOf t) t session.current
  | .drop ifExists t =>
    if session.hasRelation t then do
      let s ← session.schema (server.schemaOf t)
      let entry ← session.relation server t
      permit (s.ownedBy server.roles session.current || entry.ownedBy server.roles session.current)
      return { session.catalog with relations := remove t session.catalog.relations }
    else if ifExists then .ok session.catalog
    else .error .undefinedObject
  | .alter t => do
    let _ ← session.owned server t
    return session.catalog
  | .rename t t' => do
    let _ ← session.owned server t
    if session.hasRelation t' then .error .duplicateObject
    else .ok (session.catalog.renameRelation t t')
  | .renameOver t t' =>
    if session.hasRelation t then do
      let _ ← session.owned server t
      if session.hasRelation t' then do
        let _ ← session.owned server t'
        return session.catalog.renameRelation t t'
      else return session.catalog.renameRelation t t'
    else .ok session.catalog
  | .alterOwner t owner => do
    let _ ← session.owned server t
    return session.catalog.modifyRelation t (fun entry => entry.changeOwner owner)
  | .grant ps t grantees => do
    let _ ← session.relation server t
    return session.catalog.modifyRelation t
      (fun entry => entry.grant server.roles session.current ps grantees)
  | .revoke ps t grantees => do
    let _ ← session.relation server t
    return session.catalog.modifyRelation t
      (fun entry => entry.revoke server.roles session.current ps grantees)
  | .revokeAllIn s grantees => do
    let _ ← session.schema s
    return { session.catalog with
      relations := session.catalog.relations.map (fun e =>
        (e.1, if server.schemaOf e.1 = s then
          e.2.revoke server.roles session.current tablePrivileges grantees else e.2)) }
  | .use ps t sources => do
    session.holding server ps t
    sources.forM (session.holding server [.select])
    return session.catalog
  | .setRole _ | .resetRole | .plain _ => .ok session.catalog

/-- The role that a session acts as after a statement. -/
def Statement.roleAfter (session : Session Role Schema Relation) :
    Statement Role Schema Relation → Role
  | .setRole r => r
  | .resetRole => session.login
  | _ => session.current

/-- **Execute a statement.** -/
def execute (session : Session Role Schema Relation) (statement : Statement Role Schema Relation) :
    Except Failure (Session Role Schema Relation) :=
  match server.fails session.history statement with
  | some failure => .error failure
  | none => do
    let catalog ← effect server session statement
    return ⟨catalog, statement.roleAfter session, session.login, statement :: session.history⟩

/-- Execute some statements. -/
def executeAll (session : Session Role Schema Relation)
    (statements : List (Statement Role Schema Relation)) :
    Except Failure (Session Role Schema Relation) :=
  statements.foldlM (execute server) session

/-! ## What statements leave as it is -/

/-- Whether a statement keeps the role that a session acts as. -/
def Statement.keepsRole : Statement Role Schema Relation → Bool
  | .setRole _ | .resetRole => false
  | _ => true

/-- Whether a statement can only add privileges on relations. -/
def Statement.takesNothing : Statement Role Schema Relation → Bool
  | .grant _ _ _ | .grantOnSchema _ _ _ | .setRole _ | .resetRole | .plain _ => true
  | _ => false

@[simp] theorem permit_eq_ok {b : Bool} {u : Unit} : permit b = .ok u ↔ b = true := by
  cases b <;> simp [permit]

@[simp] theorem present_eq_ok {α : Type} {x : Option α} {a : α} : present x = .ok a ↔ x = some a := by
  cases x <;> simp [present]

variable {server} {session session' : Session Role Schema Relation}
  {statement : Statement Role Schema Relation} {statements : List (Statement Role Schema Relation)}

/-- What a statement that is executed does. -/
theorem execute_eq_ok (h : execute server session statement = .ok session') :
    effect server session statement = .ok session'.catalog
      ∧ session'.current = statement.roleAfter session ∧ session'.login = session.login := by
  unfold execute at h
  split at h
  · cases h
  · obtain ⟨catalog, hcatalog, h⟩ := bind_eq_ok.mp h
    obtain rfl := Except.ok.inj h
    exact ⟨hcatalog, rfl, rfl⟩

theorem executeAll_cons : executeAll server session (statement :: statements) = .ok session'
    ↔ ∃ next, execute server session statement = .ok next
      ∧ executeAll server next statements = .ok session' := by
  rw [executeAll, List.foldlM_cons, bind_eq_ok]
  rfl

theorem executeAll_append {statements' : List (Statement Role Schema Relation)} :
    executeAll server session (statements ++ statements') = .ok session'
      ↔ ∃ next, executeAll server session statements = .ok next
        ∧ executeAll server next statements' = .ok session' := by
  rw [executeAll, List.foldlM_append, bind_eq_ok]
  rfl

/-- **A session acts as the same role** while nothing changes it. -/
theorem executeAll_current (hkeeps : ∀ st ∈ statements, st.keepsRole = true)
    (h : executeAll server session statements = .ok session') :
    session'.current = session.current ∧ session'.login = session.login := by
  induction statements generalizing session with
  | nil =>
    obtain rfl := Except.ok.inj h
    exact ⟨rfl, rfl⟩
  | cons st rest ih =>
    obtain ⟨next, hnext, hrest⟩ := executeAll_cons.mp h
    obtain ⟨-, hrole, hlogin⟩ := execute_eq_ok hnext
    obtain ⟨hcurrent, hlogin'⟩ := ih (fun st' hst' => hkeeps st' (List.mem_cons_of_mem _ hst')) hrest
    have hsame : st.roleAfter session = session.current := by
      have hst := hkeeps st List.mem_cons_self
      cases st <;> first | rfl | cases hst
    rw [hcurrent, hlogin', hrole, hlogin, hsame]
    exact ⟨rfl, rfl⟩

/-- **Who uses a privilege has it.** -/
theorem hasTablePrivilege_of_use {ps : List Privilege} {t : Relation} {sources : List Relation}
    (h : execute server session (.use ps t sources) = .ok session') {p : Privilege} (hp : p ∈ ps) :
    session'.catalog.hasTablePrivilege server.roles session.current t p = some true := by
  obtain ⟨heffect, -, -⟩ := execute_eq_ok h
  simp only [effect, Session.holding, Session.relation, bind_eq_ok, permit_eq_ok, present_eq_ok,
    exists_const] at heffect
  obtain ⟨⟨entry, ⟨-, -, -, hentry⟩, hall⟩, -, -, hcatalog⟩ := heffect
  have hsame := Except.ok.inj hcatalog
  rw [Catalog.hasTablePrivilege, ← hsame, hentry, Option.map_some]
  exact congrArg _ (List.all_eq_true.mp hall p hp)

/-- What a statement that can only add privileges does to relations: nothing, or a grant. -/
theorem hasTablePrivilege_execute (htakes : statement.takesNothing = true)
    (h : execute server session statement = .ok session') {r : Role} {t : Relation} {p : Privilege}
    (hp : session.catalog.hasTablePrivilege server.roles r t p = some true) :
    session'.catalog.hasTablePrivilege server.roles r t p = some true := by
  obtain ⟨heffect, -, -⟩ := execute_eq_ok h
  cases statement with
  | grant ps t' grantees =>
    obtain ⟨-, -, hcatalog⟩ := bind_eq_ok.mp heffect
    have hgranted := Except.ok.inj hcatalog
    rw [Catalog.hasTablePrivilege, Option.map_eq_some_iff] at hp
    obtain ⟨entry, hentry, hallows⟩ := hp
    rw [Catalog.hasTablePrivilege, ← hgranted, Catalog.modifyRelation, lookup_modify, hentry]
    simp only [Option.map_some, Option.some.injEq]
    split_ifs
    · exact Entry.allows_grant ps grantees hallows
    · exact hallows
  | grantOnSchema ps s grantees =>
    obtain ⟨-, -, hcatalog⟩ := bind_eq_ok.mp heffect
    rw [← Except.ok.inj hcatalog]
    exact hp
  | setRole r' => rwa [← Except.ok.inj heffect]
  | resetRole => rwa [← Except.ok.inj heffect]
  | plain text => rwa [← Except.ok.inj heffect]
  | _ => cases htakes

/-- **Grants take nothing away**, in any number. -/
theorem hasTablePrivilege_executeAll (htakes : ∀ st ∈ statements, st.takesNothing = true)
    (h : executeAll server session statements = .ok session') {r : Role} {t : Relation}
    {p : Privilege} (hp : session.catalog.hasTablePrivilege server.roles r t p = some true) :
    session'.catalog.hasTablePrivilege server.roles r t p = some true := by
  induction statements generalizing session with
  | nil =>
    obtain rfl := Except.ok.inj h
    exact hp
  | cons st rest ih =>
    obtain ⟨next, hnext, hrest⟩ := executeAll_cons.mp h
    refine ih (fun st' hst' => htakes st' (List.mem_cons_of_mem _ hst')) hrest ?_
    exact hasTablePrivilege_execute (htakes st List.mem_cons_self) hnext hp

end Execution

end AccessControl
