import Lexing.Lexer.Basic
import Lexing.Machine.Compile
import Lexing.Proofs.Declaration.Accepting
import Lexing.Proofs.Declaration.Combining
import Lexing.Proofs.Declaration.Flattening
import Lexing.Proofs.Declaration.Reordering
import Lexing.Proofs.Declaration.Touring
import Lexing.Proofs.Declaration.Walking
import Lexing.Proofs.Declaration.Warnings
import Lexing.Proofs.Lexer.Collecting
import Lexing.Proofs.Lexer.Ending
import Lexing.Proofs.Lexer.Failing
import Lexing.Proofs.Lexer.Gaps
import Lexing.Proofs.Lexer.Kinds
import Lexing.Proofs.Lexer.Nesting
import Lexing.Proofs.Lexer.Policies
import Lexing.Proofs.Lexer.Positions
import Lexing.Proofs.Lexer.QuickLookup
import Lexing.Proofs.Lexer.Relisting
import Lexing.Proofs.Lexer.Renumbering
import Lexing.Proofs.Lexer.Reordering
import Lexing.Proofs.Lexer.Reporting
import Lexing.Proofs.Lexer.Resuming
import Lexing.Proofs.Lexer.Tiling
import Lexing.Proofs.Machine.Judging
import Lexing.Proofs.Text.Carets
import Lexing.Proofs.Text.LineStarts
import Lexing.Proofs.Text.Pieces
import Lexing.Text.Snippet
