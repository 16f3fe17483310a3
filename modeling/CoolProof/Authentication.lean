import CoolProof.Catalogue
import CoolProof.PortfolioRuns
import CoolProof.ProviderAdapters

/-! Who a request comes from. `get_principal` takes the subject from a bearer token, or from a
header where development allows it; `get_tenant_context` looks the membership up in the
database. Roles that a token or a header claims are held against the membership and are never
used in its place. -/

namespace CoolProof.Authentication
open Agents (configured rstripSlash)
open JsonDocument Uuid Models Tables Documents PortfolioRuns

/-! ## Settings -/

/-- The settings that authentication reads. -/
structure Settings where
  environment : String
  cognitoRegion : Option String
  cognitoUserPoolId : Option String
  cognitoAppClientId : Option String
  cognitoIssuer : Option String
  cognitoJwksUrl : Option String
  cognitoJwtAudience : Option String
  allowDevelopmentAuth : Bool

/-- `value.lower().strip()`, as far as the three words below are concerned: no letter outside
ASCII has a lower case that is in one of them. -/
def normalizeEnvironment (value : String) : List Char :=
  PythonText.strip PythonText.isBlank (value.toList.map Char.toLower)

def Settings.isDevelopment (settings : Settings) : Bool :=
  ["development".toList, "test".toList, "local".toList].contains
    (normalizeEnvironment settings.environment)

def Settings.resolvedCognitoIssuer (settings : Settings) : Option String :=
  match configured settings.cognitoIssuer with
  | some issuer => some (rstripSlash issuer)
  | none =>
      match configured settings.cognitoRegion, configured settings.cognitoUserPoolId with
      | some region, some pool =>
          some ("https://cognito-idp." ++ region ++ ".amazonaws.com/" ++ pool)
      | _, _ => none

def Settings.resolvedCognitoJwksUrl (settings : Settings) : Option String :=
  match configured settings.cognitoJwksUrl with
  | some url => some url
  | none => (configured settings.resolvedCognitoIssuer).map (· ++ "/.well-known/jwks.json")

/-! ## Tokens -/

/-- What `jwt.decode` returns; it refuses a `sub` that is no text. -/
structure Payload where
  sub : Option String
  claims : Dict

inductive JwtError where
  /-- `jwt.PyJWTError` -/
  | pyJwt
  | other

/-- The key set and `jwt.decode`: signature, expiry, issuer, and the audience if one is given. -/
structure Jwt where
  decode : (jwksUrl issuer : String) → (audience : Option String) → (token : String) →
    Except JwtError Payload

structure TokenClaims where
  subject : String
  email : Option Json
  roles : List String

def rawGroups (claims : Dict) : Json :=
  (claims.get "cognito:groups").getD ((claims.get "groups").getD (.arr []))

/-- The texts of the groups; nothing where the value cannot be iterated. -/
def groupTexts : Json → Option (List String)
  | .str s => some ((s.toList.splitOn ',').map String.ofList)
  | .arr items => some (items.filterMap Json.asStr)
  | .obj fields => some (fields.map Prod.fst)
  | _ => none

/-- `payload.get("token_use") not in {"access", "id"}`; nothing where it cannot be hashed. -/
def tokenUseRefused : Option Json → Option Bool
  | some (.arr _) | some (.obj _) => none
  | some (.str use_) => some (!(["access", "id"].contains use_))
  | _ => some true

def invalidToken (message : String) : Stopped := .refused (.apiError 401 "invalid_token" message)

/-- `CognitoJWTVerifier.verify` -/
def verify (settings : Settings) (casefold : String → String) (jwt : Jwt) (token : String) :
    Except Stopped TokenClaims :=
  match configured settings.resolvedCognitoIssuer, configured settings.resolvedCognitoJwksUrl with
  | some issuer, some jwksUrl =>
      match jwt.decode jwksUrl issuer
          ((configured settings.cognitoJwtAudience).or (configured settings.cognitoAppClientId)) token with
      | .error .pyJwt => .error (invalidToken "Bearer token validation failed")
      | .error .other => .error .unhandled
      | .ok payload =>
          match tokenUseRefused (payload.claims.get "token_use"), configured payload.sub with
          | none, _ => .error .unhandled
          | some true, _ | some false, none => .error (invalidToken "Token claims are incomplete")
          | some false, some subject =>
              match groupTexts (rawGroups payload.claims) with
              | none => .error .unhandled
              | some groups =>
                  .ok ⟨subject, payload.claims.get "email", groups.map casefold⟩
  | _, _ => .error (.refused (.apiError 503 "auth_not_configured"
      "Cognito authentication is not configured"))

/-! ## Principals -/

/-- The headers of a request that say who it comes from. A value of `X-Organization-ID` that is
no UUID is `some none`. -/
structure AuthHeaders where
  authorization : Option String
  developmentSubject : Option String
  developmentRole : Option String
  organizationId : Option (Option UUID)

structure Principal where
  subject : String
  email : Option Json
  roles : List Role

/-- `role_map` -/
def roleMap : String → Option Role
  | "viewer" => some .viewer
  | "analyst" => some .analyst
  | "manager" => some .manager
  | "admin" => some .admin
  | _ => none

/-- `Role(value.strip())` -/
def roleOf (value : List Char) : Option Role :=
  roleMap (String.ofList (PythonText.strip PythonText.isBlank value))

/-- The subject that the development headers name, where they are looked at. -/
def developmentSubject (settings : Settings) (headers : AuthHeaders) : Option String :=
  if settings.isDevelopment && settings.allowDevelopmentAuth then configured headers.developmentSubject
  else none

def bearer : String := "Bearer "

/-- `get_principal` -/
def getPrincipal (settings : Settings) (casefold : String → String) (jwt : Jwt)
    (headers : AuthHeaders) : Except Stopped Principal :=
  match developmentSubject settings headers with
  | some subject =>
      match (((configured headers.developmentRole).getD "viewer").toList.splitOn ',').mapM roleOf with
      | none => .error (.refused (.apiError 401 "invalid_development_role"
          "Development role is invalid"))
      | some roles => .ok ⟨subject, none, roles⟩
  | none =>
      match headers.authorization.filter fun text => bearer.toList.isPrefixOf text.toList with
      | none => .error (.refused (.apiError 401 "authentication_required"
          "A bearer token is required"))
      | some text =>
          (verify settings casefold jwt
              (String.ofList (text.toList.drop bearer.toList.length))).map fun claims =>
            ⟨claims.subject, claims.email, claims.roles.filterMap roleMap⟩

/-! ## Memberships -/

structure Organization where
  id : UUID
  name : String

structure User where
  id : UUID
  cognitoSubject : String
  email : Option String

structure Membership where
  organizationId : UUID
  userId : UUID
  role : Role

structure DirectoryTables where
  organizations : List Organization
  users : List User
  memberships : List Membership

structure DirectoryTables.Constraints (t : DirectoryTables) : Prop where
  organizationId : (t.organizations.map Organization.id).Nodup
  userId : (t.users.map User.id).Nodup
  cognitoSubject : (t.users.map User.cognitoSubject).Nodup
  membership : (t.memberships.map fun m => (m.organizationId, m.userId)).Nodup
  organization : ∀ m ∈ t.memberships, m.organizationId ∈ t.organizations.map Organization.id
  user : ∀ m ∈ t.memberships, m.userId ∈ t.users.map User.id

structure Directory extends DirectoryTables where
  wf : toDirectoryTables.Constraints

/-- The rows of the join for an organization and a subject. -/
def DirectoryTables.members (t : DirectoryTables) (organizationId : UUID) (subject : String) :
    List (Membership × Organization × User) :=
  (t.memberships ×ˢ t.organizations ×ˢ t.users).filter fun row =>
    row.1.organizationId = row.2.1.id && row.1.userId = row.2.2.id &&
      (row.1.organizationId = organizationId && row.2.2.cognitoSubject = subject)

def accessDenied (message : String) : Stopped :=
  .refused (.apiError 403 "organization_access_denied" message)

/-- `get_tenant_context` -/
def getTenantContext (directory : Directory) (principal : Principal)
    (organizationId : Option (Option UUID)) : Except Stopped TenantContext :=
  match organizationId with
  | some none => .error (.refused .invalidBody)
  | none => .error (.refused (.apiError 400 "organization_required" "X-Organization-ID is required"))
  | some (some id) =>
      match directory.members id principal.subject with
      | [] => .error (accessDenied "You are not a member of this organization")
      | [(membership, organization, user)] =>
          if !principal.roles.isEmpty && !principal.roles.contains membership.role then
            .error (accessDenied "The development role does not match membership")
          else .ok ⟨organization.id, user.id, membership.role⟩
      | _ :: _ :: _ => .error .unhandled

/-! ## What is accepted -/

/-- The user is a member of the organization, in the role. -/
structure Member (t : DirectoryTables) (subject : String) (tenant : TenantContext) : Prop where
  membership : ⟨tenant.organizationId, tenant.userId, tenant.role⟩ ∈ t.memberships
  user : ∃ u ∈ t.users, u.id = tenant.userId ∧ u.cognitoSubject = subject

theorem mem_members {t : DirectoryTables} {organizationId : UUID} {subject : String}
    {m : Membership} {o : Organization} {u : User} :
    (m, o, u) ∈ t.members organizationId subject ↔ (m ∈ t.memberships ∧ o ∈ t.organizations ∧
      u ∈ t.users) ∧ (m.organizationId = o.id ∧ m.userId = u.id) ∧
      m.organizationId = organizationId ∧ u.cognitoSubject = subject := by
  simp [DirectoryTables.members]

/-- A subject has one membership in an organization at most. -/
theorem members_sole (directory : Directory) (organizationId : UUID) (subject : String) :
    (directory.members organizationId subject).length ≤ 1 := by
  have wf := directory.wf
  have distinct : (directory.members organizationId subject).Nodup :=
    (((wf.membership.of_map _).product ((wf.organizationId.of_map _).product
      (wf.userId.of_map _)))).filter _
  have equal : ∀ x ∈ directory.members organizationId subject,
      ∀ y ∈ directory.members organizationId subject, x = y := by
    rintro ⟨m, o, u⟩ member ⟨m', o', u'⟩ member'
    obtain ⟨⟨inM, inO, inU⟩, ⟨ofO, ofU⟩, here, named⟩ := mem_members.mp member
    obtain ⟨⟨inM', inO', inU'⟩, ⟨ofO', ofU'⟩, here', named'⟩ := mem_members.mp member'
    have users : u = u' := List.inj_on_of_nodup_map wf.cognitoSubject inU inU'
      (named.trans named'.symm)
    have memberships : m = m' := by
      refine List.inj_on_of_nodup_map wf.membership inM inM' ?_
      rw [Prod.mk.injEq, here, here', ofU, ofU', users]
      exact ⟨rfl, rfl⟩
    have organizations : o = o' := by
      refine List.inj_on_of_nodup_map wf.organizationId inO inO' ?_
      rw [← ofO, ← ofO', memberships]
    rw [memberships, organizations, users]
  generalize directory.members organizationId subject = rows at *
  cases rows with
  | nil => exact Nat.zero_le 1
  | cons row rows =>
    cases rows with
    | nil => exact le_rfl
    | cons next rows =>
      have same := equal row List.mem_cons_self next (List.mem_cons_of_mem _ List.mem_cons_self)
      rw [same] at distinct
      exact absurd List.mem_cons_self (List.nodup_cons.mp distinct).1

/-- The rows of the join are those of the membership. -/
theorem members_of_member {directory : Directory} {subject : String} {tenant : TenantContext}
    (member : Member directory.toDirectoryTables subject tenant) :
    ∃ o u, (⟨tenant.organizationId, tenant.userId, tenant.role⟩, o, u) ∈
      directory.members tenant.organizationId subject ∧
      o.id = tenant.organizationId ∧ u.id = tenant.userId := by
  obtain ⟨u, stored, id, named⟩ := member.user
  obtain ⟨o, inTable, same⟩ := List.mem_map.mp
    (directory.wf.organization _ member.membership)
  exact ⟨o, u, mem_members.mpr
    ⟨⟨member.membership, inTable, stored⟩, ⟨same.symm, id.symm⟩, rfl, named⟩, same, id⟩

theorem member_of_members {t : DirectoryTables} {organizationId : UUID} {subject : String}
    {m : Membership} {o : Organization} {u : User}
    (member : (m, o, u) ∈ t.members organizationId subject) :
    o.id = organizationId ∧ Member t subject ⟨o.id, u.id, m.role⟩ := by
  obtain ⟨⟨inM, -, inU⟩, ⟨ofO, ofU⟩, here, named⟩ := mem_members.mp member
  refine ⟨ofO.symm.trans here, ?_, u, inU, rfl, named⟩
  rw [← ofO, ← ofU]
  exact inM

/-- A context is given out for a membership, and claimed roles only narrow which. -/
theorem getTenantContext_ok_iff (directory : Directory) (principal : Principal)
    (organizationId : Option (Option UUID)) (tenant : TenantContext) :
    getTenantContext directory principal organizationId = .ok tenant ↔
      organizationId = some (some tenant.organizationId) ∧
      Member directory.toDirectoryTables principal.subject tenant ∧
      (principal.roles = [] ∨ tenant.role ∈ principal.roles) := by
  have narrowed : ∀ role, (!principal.roles.isEmpty && !principal.roles.contains role) = false ↔
      principal.roles = [] ∨ role ∈ principal.roles := by
    intro role
    rw [Bool.and_eq_false_iff, Bool.not_eq_false', Bool.not_eq_false', List.isEmpty_iff,
      List.contains_iff_mem]
  unfold getTenantContext
  constructor
  · intro accepted
    split at accepted
    · cases accepted
    · cases accepted
    rename_i id
    split at accepted
    · cases accepted
    · rename_i m o u sole
      split at accepted
      · cases accepted
      · rename_i fits
        cases accepted
        obtain ⟨same, member⟩ := member_of_members (sole ▸ List.mem_singleton_self (m, o, u))
        exact ⟨by rw [same], member, (narrowed _).mp (Bool.eq_false_of_not_eq_true fits)⟩
    · cases accepted
  · rintro ⟨rfl, member, fits⟩
    obtain ⟨o, u, found, organization, user⟩ := members_of_member member
    have sole := members_sole directory tenant.organizationId principal.subject
    dsimp only
    split
    · rename_i none_
      rw [none_] at found
      cases found
    · rename_i m o' u' one
      rw [one, List.mem_singleton] at found
      cases found
      rw [(narrowed _).mpr fits, if_neg Bool.false_ne_true, organization, user]
    · rename_i two
      rw [two] at sole
      simp at sole

/-- Where the subject comes from: the development headers where both settings allow them, else a
token that `jwt.decode` accepts for the configured issuer and key set. -/
inductive Identified (settings : Settings) (jwt : Jwt) (headers : AuthHeaders) : String → Prop where
  | development {subject} : settings.isDevelopment = true → settings.allowDevelopmentAuth = true →
      headers.developmentSubject = some subject → Identified settings jwt headers subject
  | token {subject token issuer jwksUrl audience payload} :
      headers.authorization = some (bearer ++ token) →
      settings.resolvedCognitoIssuer = some issuer →
      settings.resolvedCognitoJwksUrl = some jwksUrl →
      jwt.decode jwksUrl issuer audience token = .ok payload → payload.sub = some subject →
      Identified settings jwt headers subject

theorem verify_ok {settings : Settings} {casefold : String → String} {jwt : Jwt} {token : String}
    {claims : TokenClaims} (accepted : verify settings casefold jwt token = .ok claims) :
    ∃ issuer jwksUrl audience payload, settings.resolvedCognitoIssuer = some issuer ∧
      settings.resolvedCognitoJwksUrl = some jwksUrl ∧
      jwt.decode jwksUrl issuer audience token = .ok payload ∧
      payload.sub = some claims.subject := by
  unfold verify at accepted
  split at accepted
  · rename_i issuer jwksUrl issues keys
    split at accepted
    · cases accepted
    · cases accepted
    rename_i payload decoded
    split at accepted
    · cases accepted
    · cases accepted
    · cases accepted
    rename_i subject used named
    split at accepted
    · cases accepted
    cases accepted
    exact ⟨issuer, jwksUrl, _, payload, (Option.filter_eq_some_iff.mp issues).1,
      (Option.filter_eq_some_iff.mp keys).1, decoded, (Option.filter_eq_some_iff.mp named).1⟩
  · cases accepted

theorem identified_of_getPrincipal {settings : Settings} {casefold : String → String} {jwt : Jwt}
    {headers : AuthHeaders} {principal : Principal}
    (accepted : getPrincipal settings casefold jwt headers = .ok principal) :
    Identified settings jwt headers principal.subject := by
  unfold getPrincipal at accepted
  split at accepted
  · rename_i subject named
    unfold developmentSubject at named
    split at named
    · rename_i allowed
      obtain ⟨development, optedIn⟩ := Bool.and_eq_true_iff.mp allowed
      split at accepted
      · cases accepted
      · cases accepted
        exact .development development optedIn (Option.filter_eq_some_iff.mp named).1
    · cases named
  · split at accepted
    · cases accepted
    rename_i text sent
    obtain ⟨authorization, begins⟩ := Option.filter_eq_some_iff.mp sent
    obtain ⟨rest, cut⟩ := List.isPrefixOf_iff_prefix.mp begins
    cases verified : verify settings casefold jwt
        (String.ofList (text.toList.drop bearer.toList.length)) with
    | error e =>
      rw [verified] at accepted
      cases accepted
    | ok claims =>
      rw [verified] at accepted
      cases accepted
      obtain ⟨issuer, jwksUrl, audience, payload, issues, keys, decoded, named⟩ :=
        verify_ok verified
      refine .token ?_ issues keys decoded named
      rw [authorization, ← cut, List.drop_left]
      refine congrArg some (String.toList_inj.mp ?_)
      rw [String.toList_append, String.toList_ofList, cut]

end CoolProof.Authentication
