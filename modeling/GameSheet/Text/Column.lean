/-!
Text in columns: spaces fill a text up to a width, which counts characters. A longer text stays whole.
-/

namespace GameSheet.Text

def fillTo (width : Nat) (text : String) : List Char := List.replicate (width - text.length) ' '

def alignRight (width : Nat) (text : String) : String := String.ofList (fillTo width text) ++ text

def alignLeft (width : Nat) (text : String) : String := text ++ String.ofList (fillTo width text)

end GameSheet.Text
