import Deobfuscation.Main
import Deobfuscation.Proofs.SymbolMap.Layouts
import Deobfuscation.Proofs.SymbolMap.Canonical
import Deobfuscation.Proofs.SymbolMap.Parts
import Deobfuscation.Proofs.SymbolMap.Refusal
import Deobfuscation.Proofs.SymbolTable.RoundTrip
import Deobfuscation.Proofs.Template.ReadBack
import Deobfuscation.Proofs.Deobfuscator.Passes
import Deobfuscation.Proofs.Deobfuscator.Sweep
import Deobfuscation.Proofs.Deobfuscator.ExceptionLine
import Deobfuscation.Proofs.Deobfuscator.ReturnValue
import Deobfuscation.Proofs.Deobfuscator.Log
import Deobfuscation.Proofs.Deobfuscator.Unknown
import Deobfuscation.Proofs.Deobfuscator.CauseLine
import Deobfuscation.Proofs.Template.FieldAccess
import Deobfuscation.Proofs.Template.InvokedMethod
import Deobfuscation.Proofs.SymbolTable.ArgumentLists
import Deobfuscation.Proofs.Deobfuscator.Transfer
import Deobfuscation.Proofs.SymbolTable.Reloading
import Deobfuscation.Proofs.SymbolTable.BlockOrder
import Deobfuscation.Proofs.Template.GroupNumbers
import Deobfuscation.Proofs.Template.WellFormed
import Deobfuscation.Proofs.CommandLine.Phases
import Deobfuscation.Proofs.SymbolTable.LineRanges
import Deobfuscation.Proofs.SymbolTable.Counting
import Deobfuscation.Proofs.Deobfuscator.Words
import Deobfuscation.Proofs.Template.Scanning
import Deobfuscation.Proofs.SymbolMap.Slices
import Deobfuscation.Proofs.SymbolMap.MissingParts
import Deobfuscation.Proofs.SymbolMap.ReportedLines
