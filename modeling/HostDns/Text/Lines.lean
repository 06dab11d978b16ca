/-!
Texts made of lines.
-/

namespace HostDns.Text

/-- Lines as a text, each ended by a line feed. -/
def unlines (lines : List String) : String := String.join (lines.map (· ++ "\n"))

end HostDns.Text
