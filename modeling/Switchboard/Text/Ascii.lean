namespace Switchboard.Text

def isAlphanumeric (c : Char) : Bool := c.isAlphanum

def lowercase (s : String) : String := String.ofList (s.toList.map Char.toLower)

def equalIgnoringCase (s t : String) : Bool := lowercase s == lowercase t

end Switchboard.Text
