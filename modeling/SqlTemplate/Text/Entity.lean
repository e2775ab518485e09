/-!
Markup-safe texts: the five characters with a meaning in markup are written as entities.
-/
namespace SqlTemplate.Text

def entity (c : Char) : List Char :=
  if c = '&' then "&amp;".toList
  else if c = '<' then "&lt;".toList
  else if c = '>' then "&gt;".toList
  else if c = '"' then "&quot;".toList
  else if c = '\'' then "&#x27;".toList
  else [c]

def escapeMarkup (s : String) : String :=
  String.ofList (s.toList.flatMap entity)

end SqlTemplate.Text
