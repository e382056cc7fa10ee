import Linewise.Main
import Linewise.Proofs.FirstFault
import Linewise.Proofs.Preservation
import Linewise.Proofs.Capacity
import Linewise.Proofs.Tiling
import Linewise.Proofs.Remarks
import Linewise.Proofs.Relocation
import Linewise.Proofs.Spelling
import Linewise.Proofs.Completion
import Linewise.Proofs.Layout
import Linewise.Proofs.Presentation
import Linewise.Proofs.Continuation
import Linewise.Proofs.Files
import Linewise.Proofs.LongestMatch
import Linewise.Proofs.Fragments
import Linewise.Proofs.Requests
import Linewise.Proofs.Stretches
import Linewise.Proofs.Highlighting
import Linewise.Proofs.WordRules
import Linewise.Proofs.Names
import Linewise.Proofs.Warnings
import Linewise.Proofs.Identifier
import Linewise.Proofs.Numerals
import Linewise.Proofs.Context
import Linewise.Proofs.History
import Linewise.Proofs.Viewing
import Linewise.Proofs.Attempts
import Linewise.Proofs.Queue
import Linewise.Proofs.Termination
import Linewise.Proofs.Safety
