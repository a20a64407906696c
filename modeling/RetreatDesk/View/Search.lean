import RetreatDesk.Registry.Participant
import RetreatDesk.Text.Letter
import RetreatDesk.Text.Part

/-!
# Looking for people

* `Participant.mentions`: whether a person's name or address holds a text, whatever its case.
* `searchTerm?`: what is looked for when a text was typed, if anything is.
-/

namespace RetreatDesk

/-- Whether the name or the address holds a text that is in lower case already. -/
def Participant.mentions (p : Participant) (needle : String) : Bool :=
  Text.hasPart (Text.lower p.fullName) needle || Text.hasPart (Text.lower p.email) needle

/-- What is looked for: the text typed, without the blanks around it, in lower case. Blanks alone ask for nothing. -/
def searchTerm? (typed : Option String) : Option String :=
  ((typed.map Text.trim).filter (!·.isEmpty)).map Text.lower

end RetreatDesk
