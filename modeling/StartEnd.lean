import StartEnd.Diagnostic.Stored
import StartEnd.Grammar.LoadError
import StartEnd.Grammar.Stored
import StartEnd.Main
import StartEnd.Program.Equality
import StartEnd.Program.Outline
import StartEnd.Proofs.Depth
import StartEnd.Proofs.Diagnostic.Snippet
import StartEnd.Proofs.Grammar.First
import StartEnd.Proofs.Grammar.Loading
import StartEnd.Proofs.Grammar.Stored
import StartEnd.Proofs.Height
import StartEnd.Proofs.Linear
import StartEnd.Proofs.Lookahead
import StartEnd.Proofs.Parser.Memory
import StartEnd.Proofs.Printing
import StartEnd.Proofs.Program.Outline
import StartEnd.Proofs.Reduction.Demand
import StartEnd.Proofs.Token.Cut
import StartEnd.Proofs.Token.Spelling
import StartEnd.Proofs.Trace.Log
import StartEnd.Proofs.Trace.Tally
import StartEnd.Proofs.Viewer.Highlight
import StartEnd.Proofs.Viewer.Navigation
import StartEnd.Proofs.Viewer.Scroll
import StartEnd.Reduction.Stored
import StartEnd.Session
import StartEnd.Text.Alphanumeric
import StartEnd.Viewer.Screen
