import Dimensional.Catalog.Declaration

/-!
The built-in catalog: units and reference values for formulas of emissions from burning fuel.
Factors are relative to the default unit of the quantity.
-/

set_option autoImplicit false

namespace Dimensional.Catalog

def emissions : Declaration where
  logging := LoggingDeclaration.standard
  quantities :=
    [⟨"Length", "meter"⟩, ⟨"Mass", "gram"⟩, ⟨"Energy", "joule"⟩, ⟨"Volume", "cubic meter"⟩]
  units :=
    [⟨"meter", "m", ["meters"], "Length", 1.0⟩,
     ⟨"kilometer", "km", ["kilometers"], "Length", 1.0e3⟩,
     ⟨"gigameter", "Gm", ["gigameters"], "Length", 1.0e9⟩,
     ⟨"gram", "g", ["grams"], "Mass", 1.0⟩,
     ⟨"kilogram", "kg", ["kilograms"], "Mass", 1.0e3⟩,
     ⟨"ton", "ton", ["Mg", "tonnes", "megagrams"], "Mass", 1.0e6⟩,
     ⟨"gigagram", "Gg", ["gigagrams"], "Mass", 1.0e9⟩,
     ⟨"joule", "J", ["joules"], "Energy", 1.0⟩,
     ⟨"kilocalorie", "kcal", ["kilocalories"], "Energy", 4186.8⟩,
     ⟨"megawatt-hour", "MWh", ["megawatt-hours"], "Energy", 3.6e9⟩,
     ⟨"terajoule", "TJ", ["terajoules"], "Energy", 1.0e12⟩,
     ⟨"cubic meter", "m^3", ["cubic meters"], "Volume", 1.0⟩,
     ⟨"stere", "st", ["steres"], "Volume", 1.0⟩,
     ⟨"liter", "L", ["liters"], "Volume", 1.0e-3⟩]
  composites :=
    [⟨"kilometer per liter", "km/L", ["kilometers per liter"], ["kilometer"], ["liter"]⟩,
     ⟨"kilogram per cubic meter", "kg/m^3", [], ["kilogram"], ["cubic meter"]⟩,
     ⟨"kilogram per stere", "kg/st", [], ["kilogram"], ["stere"]⟩,
     ⟨"ton per cubic meter", "ton/m^3", [], ["ton"], ["cubic meter"]⟩,
     ⟨"ton per stere", "ton/st", [], ["ton"], ["stere"]⟩,
     ⟨"ton per gigameter", "ton/Gm", [], ["ton"], ["gigameter"]⟩,
     ⟨"kilogram per terajoule", "kg/TJ", [], ["kilogram"], ["terajoule"]⟩,
     ⟨"terajoule per gigagram", "TJ/Gg", [], ["terajoule"], ["gigagram"]⟩,
     ⟨"megawatt-hour per stere", "MWh/st", [], ["megawatt-hour"], ["stere"]⟩,
     ⟨"kilocalorie per kilogram", "kcal/kg", [], ["kilocalorie"], ["kilogram"]⟩]
  namedValues :=
    [⟨"Density", 390.0, some "kilogram per stere"⟩,
     ⟨"NCV", 15.6, some "terajoule per gigagram"⟩,
     ⟨"EFCH4", 300.0, some "kilogram per terajoule"⟩,
     ⟨"FuelEfficiency", 2.578168115, some "kilometer per liter"⟩,
     ⟨"EFCO2Diesel", 2.603, some "ton per cubic meter"⟩,
     ⟨"EFCH4Diesel", 3.9, some "kilogram per terajoule"⟩,
     ⟨"NCVDiesel", 10100.0, some "kilocalorie per kilogram"⟩,
     ⟨"DensityDiesel", 840.0, some "kilogram per cubic meter"⟩,
     ⟨"EFCH4biodiesel", 0.0003315946, some "ton per cubic meter"⟩,
     ⟨"FracBio", 0.12, none⟩]

end Dimensional.Catalog
