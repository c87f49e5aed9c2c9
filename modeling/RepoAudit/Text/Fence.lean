/-! # Marks for code

Text for people marks names and code by backticks.
-/

namespace RepoAudit.Text

def tick : String := String.singleton (Char.ofNat 0x60)

def fence : String := tick ++ tick ++ tick

end RepoAudit.Text
