import SipOverRelay.Failure

/-!
# Errors and their wording

An operation that cannot be carried out says why by a cause. The wording of every cause is fixed
here, once.
-/

namespace SipOverRelay

/-- Why a server address cannot be used. -/
inductive ServerError where
  /-- The token does not have the shape of a server. -/
  | malformed (token : String)
  /-- A port field is not a 16 bit number. -/
  | badPort (field : String)
  /-- There is nothing in front of the port. -/
  | emptyHost
  /-- A probe was asked for, but the server has no reflector. -/
  | noReflector (server : String)
  /-- The surroundings failed. -/
  | failed (why : Failure)
  deriving DecidableEq

/-- The wording of a server error. -/
def ServerError.message : ServerError → String
  | .malformed token => "invalid server token: " ++ token
  | .badPort field => "invalid port: " ++ field
  | .emptyHost => "empty host"
  | .noReflector server => "no mirror configured for " ++ server
  | .failed _ => "io"

/-- Why an operation on the tunnel was refused. -/
inductive Error where
  /-- An argument makes no sense. -/
  | argument (what : String)
  /-- A server address cannot be used. -/
  | server (why : ServerError)
  /-- The surroundings failed. -/
  | failed (why : Failure)
  deriving DecidableEq

/-- The wording of an error; that of a server error or a failure is passed on unchanged. -/
def Error.message : Error → String
  | .argument what => "invalid argument:" ++ what
  | .server why => why.message
  | .failed why => why.text

end SipOverRelay
