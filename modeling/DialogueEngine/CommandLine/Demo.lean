import DialogueEngine.Program.Builder

/-!
# The demo program

A short dialogue with a call and a conditional jump. It knocks again while there were fewer than
two visits.
-/

namespace DialogueEngine

def demoProgram : Program :=
  let visits : Operand := .call "#VAR" [.literal (.string "visits")]
  let opened := ComponentArgs.empty.insert "text" (.string "You open the door a crack.")
  let start : Program := []
  let entry := start
    |>.setStatic "visits" (.literal (.int 0))
    |>.setStatic "mood" (.literal (.string "wary"))
    |>.say "say" "A knock at the door."
    |>.call 8
    |>.setStaticEmbedded "visits" "(+ $$visits 1)"
    |>.condGotoEmbedded "(or (and (< $$visits 2) 2) 6)"
    |>.setStatic "mood" (.literal (.string "relieved"))
    |>.goto 10
  let door := entry
    |>.callComponent "log" opened
    |>.ret
  door
    |>.say "say" "Nobody is there."
    |>.setStatic "done" (.call "==" [.literal (.int 2), visits])

end DialogueEngine
