import RoleChart.Proofs.Bytes
import RoleChart.Proofs.Json
import RoleChart.Registry

/-!
# Reading registry logins

A login that pods pull their images with is base64 around JSON, which holds base64 once more. Read layer by layer it
gives the registry, the user and the password that it was made from, so no two logins are alike.

## Main statements

* `ofBase64?_base64` — a base64 text is read back
* `dockercfg_decodes` — a login is read back, down to the header that sends it
-/

namespace RoleChart

/-- The text that a base64 text holds, if its bytes are those of a text. -/
def ofBase64? (code : String) : Option String :=
  (Base64.decode code.toList).bind fun bytes => String.fromUTF8? ⟨bytes.toArray⟩

theorem ofBase64?_base64 (s : String) : ofBase64? (base64 s) = some s := by
  rw [ofBase64?, base64, String.toList_ofList, Base64.decode_encode, Option.bind_some, fromUTF8?_bytes]

/-- The value in a login. -/
def login? (code : String) : Option Json := (ofBase64? code).bind Json.ofText?

/-- A login, decoded, is an object with the registry as its only member. -/
theorem login?_dockercfg (host username password : String) :
    login? (dockercfg host username password) = some (.object [(host, .object [
      ("auth", .string (base64 (username ++ ":" ++ password))),
      ("password", .string password),
      ("username", .string username)])]) := by
  rw [login?, dockercfg, ofBase64?_base64, Option.bind_some]
  refine Json.WellFormed.ofText?_text (.object (List.forall_mem_singleton.2 (.object ?_)))
  simp only [List.forall_mem_cons]
  exact ⟨.string, .string, .string, List.forall_mem_nil _⟩

/-- A login is read back as an object with the registry as its only member, which holds the user, the password and
the header of both, and nothing else. The header is the base64 text of the user and the password with a colon between
them. Logins to different registries, of different users or with different passwords are different. -/
theorem dockercfg_decodes (host username password : String) :
    (∃ auth,
      login? (dockercfg host username password) = some (.object [(host, .object [
        ("auth", .string auth),
        ("password", .string password),
        ("username", .string username)])])
      ∧ ofBase64? auth = some (username ++ ":" ++ password))
    ∧ ∀ host' username' password',
        dockercfg host' username' password' = dockercfg host username password ↔
          host' = host ∧ username' = username ∧ password' = password := by
  have hread := login?_dockercfg host username password
  refine ⟨⟨_, hread, ofBase64?_base64 _⟩, fun host' username' password' => ⟨fun h => ?_, ?_⟩⟩
  · have hread' := login?_dockercfg host' username' password'
    rw [h, hread] at hread'
    simp only [Option.some.injEq, Json.object.injEq, Json.string.injEq, List.cons.injEq, Prod.mk.injEq, true_and,
      and_true] at hread'
    exact ⟨hread'.1.symm, hread'.2.2.2.symm, hread'.2.2.1.symm⟩
  · rintro ⟨rfl, rfl, rfl⟩
    rfl

end RoleChart
