import SipOverRelay.Server.Token
import SipOverRelay.Text.Blank

/-!
# Server lists

A list of servers is kept as one text, its tokens separated by white space. Reading skips what is no
server and remembers it, so one bad token never costs its neighbours.
-/

namespace SipOverRelay

/-- A token of a list that is no server, with the reason. -/
structure RejectedToken where
  /-- The token as it stands in the list. -/
  token : String
  /-- Why it is no server. -/
  why : ServerError
  deriving DecidableEq

namespace Server

/-- Reads every token of a list. -/
def readEach (list : List Char) : List (Except RejectedToken Server) :=
  (Text.words list).map fun token => (ofToken token).mapError (⟨String.ofList token, ·⟩)

/-- The server a reading gave, if it gave one. -/
def accepted? : Except RejectedToken Server → Option Server
  | .ok server => some server
  | .error _ => none

/-- The rejected token of a reading, if it failed. -/
def rejected? : Except RejectedToken Server → Option RejectedToken
  | .ok _ => none
  | .error rejected => some rejected

/-- The servers of a list, in order and with repetitions. -/
def listOfToken (list : List Char) : List Server := (readEach list).filterMap accepted?

/-- The tokens of a list that were skipped, in order. -/
def rejectedTokens (list : List Char) : List RejectedToken := (readEach list).filterMap rejected?

/-- The servers of a list given as a string. -/
def listOfText (list : String) : List Server := listOfToken list.toList

/-- The text form of a list: the tokens with one space between them. -/
def listToken (servers : List Server) : List Char := [' '].intercalate (servers.map token)

/-- The text form of a list, as a string. -/
def listText (servers : List Server) : String := String.ofList (listToken servers)

/-- The servers that have a reflector, in order. -/
def reflecting (servers : List Server) : List Server := servers.filter (·.reflector.isSome)

/-- The `index`-th server that has a reflector, counted from zero. -/
def candidate? (servers : List Server) (index : Nat) : Option Server := (reflecting servers)[index]?

end Server

end SipOverRelay
