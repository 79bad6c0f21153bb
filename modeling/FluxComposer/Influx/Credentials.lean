import FluxComposer.Text.Hidden
/-
What a session may do at the database: an API token and the organization
it acts for. The token is a secret, so the shown form leaves it out.
-/
namespace FluxComposer

/-- An API token and the organization it acts for. -/
structure Credentials where
  apiToken : String
  organization : String
  deriving DecidableEq

/-- Credentials as logs may show them. -/
def Credentials.shown (c : Credentials) : String :=
  "Credentials \x7b api_token: \"***\", organization: "
    ++ Text.shown c.organization ++ " \x7d"

end FluxComposer
