import Mathlib.Data.List.Basic
import SipOverRelay.Notice

/-!
# Tokens and their neighbours

A list is cut at its white space before anything else is looked at, and what stands between two cuts
is read on its own. So two lists with any white space between them are read one after the other,
notices included, and a list of one token is the server that this token names or one notice. What
stands in a token, however wrong, says nothing about the servers before and behind it.
-/

namespace SipOverRelay.Server

/-- What reading a list writes into the log: a notice for each token that is skipped, in order. -/
def warnings (list : String) : List Notice := (rejectedTokens list.toList).map .tokenSkipped

/-- A text of white space alone that may stand between two tokens. -/
def IsGap (text : String) : Prop := text ≠ "" ∧ ∀ c ∈ text.toList, Text.isBlank c = true

instance (text : String) : Decidable (IsGap text) :=
  decidable_of_iff (text ≠ "" ∧ text.toList.all Text.isBlank = true) (by simp [IsGap])

/-- A text that can be a token of a list. -/
def IsToken (text : String) : Prop := text ≠ "" ∧ Text.IsUnbroken text.toList

instance (text : String) : Decidable (IsToken text) := inferInstanceAs (Decidable (_ ∧ _))

/-- The tokens on both sides of a gap are read in order. -/
theorem readEach_append {gap : String} (hgap : IsGap gap) (front back : String) :
    readEach (front ++ gap ++ back).toList = readEach front.toList ++ readEach back.toList := by
  have hne : gap.toList ≠ [] := by simpa using hgap.1
  have htext : (front ++ gap ++ back).toList = front.toList ++ (gap.toList ++ back.toList) := by
    rw [String.toList_append, String.toList_append, List.append_assoc]
  have hwords : Text.words (front ++ gap ++ back).toList =
      Text.words front.toList ++ Text.words back.toList := by
    rw [htext, Text.words_append_blanks hne hgap.2]
  rw [readEach, hwords, List.map_append, readEach, readEach]

/-- The servers on both sides of a gap are read in order. -/
theorem listOfText_append {gap : String} (hgap : IsGap gap) (front back : String) :
    listOfText (front ++ gap ++ back) = listOfText front ++ listOfText back := by
  rw [listOfText, listOfToken, readEach_append hgap, List.filterMap_append]
  rfl

/-- The tokens skipped on both sides of a gap are reported in order. -/
theorem warnings_append {gap : String} (hgap : IsGap gap) (front back : String) :
    warnings (front ++ gap ++ back) = warnings front ++ warnings back := by
  rw [warnings, rejectedTokens, readEach_append hgap, List.filterMap_append, List.map_append]
  rfl

/-- A list of one token is read by reading this token. -/
theorem readEach_token {token : String} (h : IsToken token) :
    readEach token.toList = [(ofText token).mapError (⟨token, ·⟩)] := by
  have hne : token.toList ≠ [] := by simpa using h.1
  rw [readEach, Text.words_of_isUnbroken hne h.2, List.map_singleton, String.ofList_toList]
  rfl

/-- A list of one token that names a server is that server. -/
theorem reading_of_ok {token : String} {server : Server} (h : IsToken token)
    (hread : ofText token = .ok server) :
    listOfText token = [server] ∧ warnings token = [] := by
  have heach := readEach_token h
  rw [hread] at heach
  constructor
  · rw [listOfText, listOfToken, heach]
    rfl
  · rw [warnings, rejectedTokens, heach]
    rfl

/-- A list of one token that names no server is empty, and says why once. -/
theorem reading_of_error {token : String} {why : ServerError} (h : IsToken token)
    (hread : ofText token = .error why) :
    listOfText token = [] ∧ warnings token = [.tokenSkipped ⟨token, why⟩] := by
  have heach := readEach_token h
  rw [hread] at heach
  constructor
  · rw [listOfText, listOfToken, heach]
    rfl
  · rw [warnings, rejectedTokens, heach]
    rfl

/-- Lists with white space between them are read one after the other, servers and notices alike. A
list of one token is the server that the token names, without a notice, or it is empty with one
notice on that token. So between two lists a token adds its server or its notice, and the servers
and notices before and behind it are those of the two lists. -/
theorem tokens_stand_alone :
    (∀ front gap back : String, IsGap gap →
        listOfText (front ++ gap ++ back) = listOfText front ++ listOfText back ∧
          warnings (front ++ gap ++ back) = warnings front ++ warnings back) ∧
      (∀ token : String, IsToken token →
        (∃ server, ofText token = .ok server ∧ listOfText token = [server] ∧
            warnings token = []) ∨
          ∃ why, ofText token = .error why ∧ listOfText token = [] ∧
            warnings token = [.tokenSkipped ⟨token, why⟩]) ∧
      ∀ front gap token next back : String, IsGap gap → IsToken token → IsGap next →
        (∀ server, ofText token = .ok server →
            listOfText (front ++ gap ++ token ++ next ++ back) =
                listOfText front ++ server :: listOfText back ∧
              warnings (front ++ gap ++ token ++ next ++ back) =
                warnings front ++ warnings back) ∧
          ∀ why, ofText token = .error why →
            listOfText (front ++ gap ++ token ++ next ++ back) =
                listOfText front ++ listOfText back ∧
              warnings (front ++ gap ++ token ++ next ++ back) =
                warnings front ++ .tokenSkipped ⟨token, why⟩ :: warnings back := by
  refine ⟨fun front gap back hgap => ⟨listOfText_append hgap front back,
    warnings_append hgap front back⟩, fun token htoken => ?_, ?_⟩
  · cases hread : ofText token with
    | ok server => exact .inl ⟨server, rfl, reading_of_ok htoken hread⟩
    | error why => exact .inr ⟨why, rfl, reading_of_error htoken hread⟩
  · intro front gap token next back hgap htoken hnext
    have hservers : listOfText (front ++ gap ++ token ++ next ++ back) =
        listOfText front ++ (listOfText token ++ listOfText back) := by
      rw [listOfText_append hnext, listOfText_append hgap, List.append_assoc]
    have hwarnings : warnings (front ++ gap ++ token ++ next ++ back) =
        warnings front ++ (warnings token ++ warnings back) := by
      rw [warnings_append hnext, warnings_append hgap, List.append_assoc]
    constructor
    · intro server hread
      obtain ⟨hserver, hnone⟩ := reading_of_ok htoken hread
      rw [hserver] at hservers
      rw [hnone] at hwarnings
      exact ⟨hservers, hwarnings⟩
    · intro why hread
      obtain ⟨hnone, hwarning⟩ := reading_of_error htoken hread
      rw [hnone] at hservers
      rw [hwarning] at hwarnings
      exact ⟨hservers, hwarnings⟩

/-- A port that is no number costs only its own token, whatever white space stands around it. -/
theorem bad_port_costs_one_token :
    IsGap " \u2003" ∧ IsToken "c.example:x" ∧ IsGap "\t\n" ∧
      ofText "c.example:x" = .error (.badPort "x") ∧
      listOfText ("a.example:1" ++ " \u2003" ++ "c.example:x" ++ "\t\n" ++ "b.example:2:3:4 :5") =
        [⟨"a.example", 1, none⟩, ⟨"b.example", 2, some ⟨3, 4⟩⟩] ∧
      warnings ("a.example:1" ++ " \u2003" ++ "c.example:x" ++ "\t\n" ++ "b.example:2:3:4 :5") =
        [.tokenSkipped ⟨"c.example:x", .badPort "x"⟩, .tokenSkipped ⟨":5", .emptyHost⟩] := by
  have hgap : IsGap " \u2003" := by decide
  have htoken : IsToken "c.example:x" := by decide
  have hnext : IsGap "\t\n" := by decide
  have hread : ofText "c.example:x" = .error (.badPort "x") := by decide
  obtain ⟨-, -, hamid⟩ := tokens_stand_alone
  obtain ⟨-, hskipped⟩ := hamid "a.example:1" " \u2003" "c.example:x" "\t\n" "b.example:2:3:4 :5"
    hgap htoken hnext
  obtain ⟨hservers, hwarnings⟩ := hskipped _ hread
  refine ⟨hgap, htoken, hnext, hread, hservers.trans ?_, hwarnings.trans ?_⟩ <;> decide

end SipOverRelay.Server
