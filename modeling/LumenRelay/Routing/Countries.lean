import LumenRelay.Py.Dynamic

/-!
# Countries

The assigned country codes with their English names, the other spellings that are understood,
and the flag of a code.
-/

namespace Routing

open Py

variable (rt : Runtime)

/-- `ISO_COUNTRIES`. -/
def isoCountries : List (String × String) :=
  [("AD", "Andorra"), ("AE", "United Arab Emirates"), ("AF", "Afghanistan"),
    ("AG", "Antigua and Barbuda"), ("AI", "Anguilla"), ("AL", "Albania"), ("AM", "Armenia"),
    ("AO", "Angola"), ("AQ", "Antarctica"), ("AR", "Argentina"), ("AS", "American Samoa"),
    ("AT", "Austria"), ("AU", "Australia"), ("AW", "Aruba"), ("AX", "Åland Islands"),
    ("AZ", "Azerbaijan"), ("BA", "Bosnia and Herzegovina"), ("BB", "Barbados"),
    ("BD", "Bangladesh"), ("BE", "Belgium"), ("BF", "Burkina Faso"), ("BG", "Bulgaria"),
    ("BH", "Bahrain"), ("BI", "Burundi"), ("BJ", "Benin"), ("BL", "Saint Barthélemy"),
    ("BM", "Bermuda"), ("BN", "Brunei"), ("BO", "Bolivia"), ("BQ", "Caribbean Netherlands"),
    ("BR", "Brazil"), ("BS", "Bahamas"), ("BT", "Bhutan"), ("BV", "Bouvet Island"),
    ("BW", "Botswana"), ("BY", "Belarus"), ("BZ", "Belize"), ("CA", "Canada"),
    ("CC", "Cocos (Keeling) Islands"), ("CD", "DR Congo"), ("CF", "Central African Republic"),
    ("CG", "Congo"), ("CH", "Switzerland"), ("CI", "Côte d'Ivoire"), ("CK", "Cook Islands"),
    ("CL", "Chile"), ("CM", "Cameroon"), ("CN", "China"), ("CO", "Colombia"),
    ("CR", "Costa Rica"), ("CU", "Cuba"), ("CV", "Cape Verde"), ("CW", "Curaçao"),
    ("CX", "Christmas Island"), ("CY", "Cyprus"), ("CZ", "Czechia"), ("DE", "Germany"),
    ("DJ", "Djibouti"), ("DK", "Denmark"), ("DM", "Dominica"), ("DO", "Dominican Republic"),
    ("DZ", "Algeria"), ("EC", "Ecuador"), ("EE", "Estonia"), ("EG", "Egypt"),
    ("EH", "Western Sahara"), ("ER", "Eritrea"), ("ES", "Spain"), ("ET", "Ethiopia"),
    ("FI", "Finland"), ("FJ", "Fiji"), ("FK", "Falkland Islands"), ("FM", "Micronesia"),
    ("FO", "Faroe Islands"), ("FR", "France"), ("GA", "Gabon"), ("GB", "United Kingdom"),
    ("GD", "Grenada"), ("GE", "Georgia"), ("GF", "French Guiana"), ("GG", "Guernsey"),
    ("GH", "Ghana"), ("GI", "Gibraltar"), ("GL", "Greenland"), ("GM", "Gambia"),
    ("GN", "Guinea"), ("GP", "Guadeloupe"), ("GQ", "Equatorial Guinea"), ("GR", "Greece"),
    ("GS", "South Georgia"), ("GT", "Guatemala"), ("GU", "Guam"), ("GW", "Guinea-Bissau"),
    ("GY", "Guyana"), ("HK", "Hong Kong"), ("HM", "Heard Island and McDonald Islands"),
    ("HN", "Honduras"), ("HR", "Croatia"), ("HT", "Haiti"), ("HU", "Hungary"),
    ("ID", "Indonesia"), ("IE", "Ireland"), ("IL", "Israel"), ("IM", "Isle of Man"),
    ("IN", "India"), ("IO", "British Indian Ocean Territory"), ("IQ", "Iraq"), ("IR", "Iran"),
    ("IS", "Iceland"), ("IT", "Italy"), ("JE", "Jersey"), ("JM", "Jamaica"), ("JO", "Jordan"),
    ("JP", "Japan"), ("KE", "Kenya"), ("KG", "Kyrgyzstan"), ("KH", "Cambodia"),
    ("KI", "Kiribati"), ("KM", "Comoros"), ("KN", "Saint Kitts and Nevis"),
    ("KP", "North Korea"), ("KR", "South Korea"), ("KW", "Kuwait"), ("KY", "Cayman Islands"),
    ("KZ", "Kazakhstan"), ("LA", "Laos"), ("LB", "Lebanon"), ("LC", "Saint Lucia"),
    ("LI", "Liechtenstein"), ("LK", "Sri Lanka"), ("LR", "Liberia"), ("LS", "Lesotho"),
    ("LT", "Lithuania"), ("LU", "Luxembourg"), ("LV", "Latvia"), ("LY", "Libya"),
    ("MA", "Morocco"), ("MC", "Monaco"), ("MD", "Moldova"), ("ME", "Montenegro"),
    ("MF", "Saint Martin"), ("MG", "Madagascar"), ("MH", "Marshall Islands"),
    ("MK", "North Macedonia"), ("ML", "Mali"), ("MM", "Myanmar"), ("MN", "Mongolia"),
    ("MO", "Macao"), ("MP", "Northern Mariana Islands"), ("MQ", "Martinique"),
    ("MR", "Mauritania"), ("MS", "Montserrat"), ("MT", "Malta"), ("MU", "Mauritius"),
    ("MV", "Maldives"), ("MW", "Malawi"), ("MX", "Mexico"), ("MY", "Malaysia"),
    ("MZ", "Mozambique"), ("NA", "Namibia"), ("NC", "New Caledonia"), ("NE", "Niger"),
    ("NF", "Norfolk Island"), ("NG", "Nigeria"), ("NI", "Nicaragua"), ("NL", "Netherlands"),
    ("NO", "Norway"), ("NP", "Nepal"), ("NR", "Nauru"), ("NU", "Niue"), ("NZ", "New Zealand"),
    ("OM", "Oman"), ("PA", "Panama"), ("PE", "Peru"), ("PF", "French Polynesia"),
    ("PG", "Papua New Guinea"), ("PH", "Philippines"), ("PK", "Pakistan"), ("PL", "Poland"),
    ("PM", "Saint Pierre and Miquelon"), ("PN", "Pitcairn"), ("PR", "Puerto Rico"),
    ("PS", "Palestine"), ("PT", "Portugal"), ("PW", "Palau"), ("PY", "Paraguay"),
    ("QA", "Qatar"), ("RE", "Réunion"), ("RO", "Romania"), ("RS", "Serbia"), ("RU", "Russia"),
    ("RW", "Rwanda"), ("SA", "Saudi Arabia"), ("SB", "Solomon Islands"), ("SC", "Seychelles"),
    ("SD", "Sudan"), ("SE", "Sweden"), ("SG", "Singapore"), ("SH", "Saint Helena"),
    ("SI", "Slovenia"), ("SJ", "Svalbard and Jan Mayen"), ("SK", "Slovakia"),
    ("SL", "Sierra Leone"), ("SM", "San Marino"), ("SN", "Senegal"), ("SO", "Somalia"),
    ("SR", "Suriname"), ("SS", "South Sudan"), ("ST", "São Tomé and Príncipe"),
    ("SV", "El Salvador"), ("SX", "Sint Maarten"), ("SY", "Syria"), ("SZ", "Eswatini"),
    ("TC", "Turks and Caicos Islands"), ("TD", "Chad"), ("TF", "French Southern Territories"),
    ("TG", "Togo"), ("TH", "Thailand"), ("TJ", "Tajikistan"), ("TK", "Tokelau"),
    ("TL", "Timor-Leste"), ("TM", "Turkmenistan"), ("TN", "Tunisia"), ("TO", "Tonga"),
    ("TR", "Turkey"), ("TT", "Trinidad and Tobago"), ("TV", "Tuvalu"), ("TW", "Taiwan"),
    ("TZ", "Tanzania"), ("UA", "Ukraine"), ("UG", "Uganda"),
    ("UM", "U.S. Minor Outlying Islands"), ("US", "United States"), ("UY", "Uruguay"),
    ("UZ", "Uzbekistan"), ("VA", "Vatican City"), ("VC", "Saint Vincent and the Grenadines"),
    ("VE", "Venezuela"), ("VG", "British Virgin Islands"), ("VI", "U.S. Virgin Islands"),
    ("VN", "Vietnam"), ("VU", "Vanuatu"), ("WF", "Wallis and Futuna"), ("WS", "Samoa"),
    ("YE", "Yemen"), ("YT", "Mayotte"), ("ZA", "South Africa"), ("ZM", "Zambia"),
    ("ZW", "Zimbabwe"), ("XK", "Kosovo")]

/-- `_ALIASES`. -/
def aliases : List (String × String) :=
  [("usa", "US"), ("america", "US"), ("united states of america", "US"), ("u.s.", "US"),
    ("u.s.a.", "US"), ("us", "US"), ("uk", "GB"), ("great britain", "GB"), ("britain", "GB"),
    ("england", "GB"), ("u.k.", "GB"), ("uae", "AE"), ("emirates", "AE"), ("south korea", "KR"),
    ("korea", "KR"), ("republic of korea", "KR"), ("north korea", "KP"), ("russia", "RU"),
    ("russian federation", "RU"), ("iran", "IR"), ("iran (islamic republic of)", "IR"),
    ("turkey", "TR"), ("turkiye", "TR"), ("türkiye", "TR"), ("czech republic", "CZ"),
    ("hong kong", "HK"), ("hongkong", "HK"), ("hong kong sar", "HK"), ("macau", "MO"),
    ("taiwan", "TW"), ("taiwan, province of china", "TW"), ("chinese taipei", "TW"),
    ("vietnam", "VN"), ("viet nam", "VN"), ("laos", "LA"), ("lao pdr", "LA"), ("syria", "SY"),
    ("syrian arab republic", "SY"), ("palestine", "PS"), ("state of palestine", "PS"),
    ("democratic republic of the congo", "CD"), ("drc", "CD"), ("congo kinshasa", "CD"),
    ("republic of the congo", "CG"), ("congo brazzaville", "CG"), ("ivory coast", "CI"),
    ("cote d'ivoire", "CI"), ("cabo verde", "CV"), ("holland", "NL"), ("the netherlands", "NL"),
    ("vatican", "VA"), ("holy see", "VA"), ("swaziland", "SZ"), ("burma", "MM"),
    ("east timor", "TL"), ("south georgia and the south sandwich islands", "GS"),
    ("brunei darussalam", "BN"), ("federated states of micronesia", "FM"),
    ("sao tome and principe", "ST"), ("saint vincent", "VC"), ("saint kitts", "KN"),
    ("virgin islands (u.s.)", "VI"), ("virgin islands (british)", "VG"), ("curacao", "CW"),
    ("reunion", "RE"), ("aland islands", "AX"), ("aland", "AX")]

/-- `_CODE_ALIASES`. -/
def codeAliases : List (String × String) :=
  [("UK", "GB"), ("EL", "GR"), ("BU", "MM"), ("TP", "TL"), ("YU", "RS"), ("ZR", "CD")]

/-- `UNKNOWN_FLAG`. -/
def unknownFlag : String := "🌐"

/-- `_CODE_RE`: two ASCII letters. -/
def isCode (s : String) : Bool := s.length == 2 && s.toList.all Char.isAlpha

/-- `_NAME_TO_CODE`: an official name comes before another spelling. -/
def nameToCode (name : String) : Option String :=
  match isoCountries.find? fun e => rt.casefold e.2 = name with
  | some (code, _) => some code
  | none => (aliases.find? fun e => e.1 = name ∧ (isoCountries.lookup e.2).isSome).map Prod.snd

/-- `is_valid_code`, of a text. -/
def isValidCode (code : String) : Bool := (isoCountries.lookup (rt.upper (strip code))).isSome

/-- `country_name`. -/
def countryName (code : String) : String :=
  let key := rt.upper (strip code)
  (isoCountries.lookup key).getD key

/-- `flag_for`. -/
def flagFor (code : String) : String :=
  let code := rt.upper (strip code)
  if isCode code then
    String.ofList (code.toList.map fun c => Char.ofNat (0x1F1E6 + c.toNat - 'A'.toNat))
  else unknownFlag

/-- The code that two letters stand for. -/
def assignedCode (letters : String) : String :=
  let code := rt.upper letters
  (codeAliases.lookup code).getD code

/-- A code with a name beside it, as `normalize_country` reads the pair. -/
def pairCountry (maybeCode maybeName : String) : Option (String × String) :=
  if isCode maybeCode then
    let code := assignedCode rt maybeCode
    some (sliceTo 60 (if maybeName ≠ "" then maybeName else countryName rt code), code)
  else none

/-- `normalize_country` of a text without a bar. -/
def plainCountry (text : String) : String × String :=
  if isCode text then
    let code := assignedCode rt text
    (countryName rt code, code)
  else
    match nameToCode rt (rt.casefold text) with
    | some code => (countryName rt code, code)
    | none => (sliceTo 60 text, "")

/-- `normalize_country`: the name and the code, empty if there is none. -/
def normalizeCountry (raw : Json) : String × String :=
  let text := strip (raw.text rt)
  if text = "" then ("Unknown", "")
  else
    match splitOnce '|' text with
    | none => plainCountry rt text
    | some (left, right) =>
      ((pairCountry rt (strip left) (strip right)).orElse fun _ =>
        pairCountry rt (strip right) (strip left)).getD (plainCountry rt text)

end Routing
